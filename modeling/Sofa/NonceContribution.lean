import Sofa.Confidential
import Sofa.Slots
import Sofa.WriteFrames

/-! # Who contributes to a cyclic nonce

    A cyclic session runs under `nonce_base = client_random XOR server_random`, both
    from its own arming.  For a read both meet in the challenge.  For a write the server
    random goes out with the challenge and the client random comes back with the
    Pass-2 frame; until then the base in the slot is zero, but a one-byte challenge has
    already marked the slot cyclic.

    The headline, `contributed_iff`: along any run every AEAD operation of a poll is made
    under a base both peers contributed to, exactly when no write poll reaches the tag
    check before a Pass-2 frame has answered the challenge; `unanswered_poll` is a run in
    which one does. -/

namespace SofaNonceContribution

open ByteBlock SofaConfig SofaAead SofaOd SofaMoves SofaServer SofaWrites SofaReads
  SofaConfidential SofaSlots SofaWriteFrames StateWp Machine

variable {H : Type} {gcm : Gcm} {P : Ports H}

/-! ## Sessions in the history -/

/-- The exchange handed out a write challenge for `d`. -/
def challenges (d : UInt32) (x : Exchange) : Bool := x.dataId == d && issued x

/-- In the exchange a Pass-2 frame for `d` verified and reached `write_after`. -/
def answers (d : UInt32) (x : Exchange) : Bool :=
  x.dataId == d && (appliedFrames x.calls).any (·.call.direction == dirWriteRequest)

/-- The last challenge for `d`, and the last Pass-2 frame that answered it. -/
def writeSession (d : UInt32) (history : List Exchange) : Option (Exchange × Option Exchange) :=
  history.foldl (fun session x =>
    if challenges d x then some (x, none)
    else if answers d x then session.map fun p => (p.1, some x)
    else session) none

/-- A Pass-2 frame has answered the last challenge for `d`. -/
def answered (d : UInt32) (history : List Exchange) : Prop :=
  ∃ x y, writeSession d history = some (x, some y)

theorem writeSession_append (d : UInt32) (h : List Exchange) (x : Exchange) :
    writeSession d (h ++ [x]) =
      if challenges d x then some (x, none)
      else if answers d x then (writeSession d h).map fun p => (p.1, some x)
      else writeSession d h := by
  simp [writeSession]

/-! ## The law -/

/-- The server drew its random in `x`, the client sent its own in `y`, and `base` is the
    XOR of the two. -/
def Contributed (x y : Exchange) (base : Nonce) : Prop :=
  ∃ sr, drawn x.calls = [sr] ∧ base = aeadXorNonce (reqRandom y.req) sr

/-- Every AEAD operation that the exchange makes for a poll takes the next nonce of a base
    both peers contributed to, in the arming of the session polled. -/
structure PollsContributed (history : List Exchange) (d : UInt32) (calls : List Event)
    (rslot : ReadSlot) (wslot : WriteSlot) : Prop where
  reads : ∀ q ∈ sealings calls, q.call.direction = dirReadPollResponse →
    ∃ x base, lastArming history d = some x ∧ Contributed x x base ∧
      q.call.nonce = buildSessionNonce base (rslot.counter + 1)
  writes : ∀ q cipher tag out, .aeadOpen q cipher tag out ∈ calls →
    q.direction = dirWritePollRequest →
    ∃ x y base, writeSession d history = some (x, some y) ∧ Contributed x y base ∧
      q.nonce = buildSessionNonce base (wslot.counter + 1)

/-- The law of one step. -/
def StepContributed (gcm : Gcm) (P : Ports H) (s : Server H) : Input H → Prop
  | .request client d req replyMax => ∀ idx entry, s.sod.registry.find d = some (idx, entry) →
      PollsContributed s.history d (exchange gcm P s client d req replyMax).calls
        (s.sod.readSlot idx) (s.sod.writeSlot idx)
  | _ => True

/-! ## The condition -/

/-- A write poll only reaches the tag check when a Pass-2 frame has answered the last
    challenge for its entry. -/
def PollsAnswered (P : Ports H) (s : Server H) : Input H → Prop
  | .request client d req _ => ∀ idx entry key, s.sod.registry.find d = some (idx, entry) →
      WritePollReaches P s.sod s.host idx entry client req key → answered d s.history
  | _ => True

/-! ## The bases in the slots -/

/-- What a read slot in use says about the arming of its entry. -/
def ReadBase (history : List Exchange) (d : UInt32) (slot : ReadSlot) : Prop :=
  ∃ x sr, lastArming history d = some x ∧ drawn x.calls = [sr] ∧
    (slot.cyclic = true → slot.nonceBase = aeadXorNonce (reqRandom x.req) sr)

/-- What a write slot in use says about the session of its entry. -/
def WriteBase (history : List Exchange) (d : UInt32) (slot : WriteSlot) : Prop :=
  ∃ x answer, writeSession d history = some (x, answer) ∧ drawn x.calls = [slot.serverRandom] ∧
    ∀ y, answer = some y → slot.nonceBase = aeadXorNonce (reqRandom y.req) slot.serverRandom

section Moves

variable {client arrival : UInt16} {d : UInt32} {req : List UInt8} {s s' : Sod}
  {idx : Fin sodMaxEntries} {entry : SodEntry} {log : List Event} {r : SodResult}

/-- A move that leaves a read slot in use either armed it, or kept its session. -/
theorem readSlot_step (h : Move gcm P client req arrival s idx entry log r s')
    (hup : (s'.readSlot idx).inUse = true) :
    (∃ sr cipher tag now, r = .defer ∧ drawn log = [sr] ∧
      s'.readSlot idx = armedReadSlot client req sr cipher tag now) ∨
    (r ≠ .defer ∧ (s.readSlot idx).inUse = true ∧
      (s'.readSlot idx).cyclic = (s.readSlot idx).cyclic ∧
      (s'.readSlot idx).nonceBase = (s.readSlot idx).nonceBase) := by
  cases h with
  | @readArmed pre key plain cipher sr tag now checked sealed =>
      left
      refine ⟨sr, cipher, tag, now, rfl, ?_, Sod.readSlot_setRead _ _ _⟩
      rw [drawn_append, drawn_passive checked.passive]
      rfl
  | readArmFailed checked sealed => simp at hup
  | fetchDropped | fetchedOnce | readLapsed => simp at hup
  | fetchedCyclic ro empty inUse ready fresh cyclic =>
      exact .inr ⟨by simp, inUse, by simp, by simp⟩
  | readPolled checked passive clock gate source sealed =>
      exact .inr ⟨by simp, checked.inUse, by simp, by simp⟩
  | _ => exact .inr ⟨by simp, hup, rfl, rfl⟩

/-- **The read side of a move** keeps what the slot says. -/
theorem readBase_move {h : List Exchange}
    (hm : Move gcm P client req arrival s idx entry log r s')
    (hup : (s'.readSlot idx).inUse = true)
    (hold : (s.readSlot idx).inUse = true → ReadBase h d (s.readSlot idx)) :
    ReadBase (h ++ [⟨client, d, req, r, log⟩]) d (s'.readSlot idx) := by
  rcases readSlot_step hm hup with ⟨sr, cipher, tag, now, rfl, hdrawn, hslot⟩ |
    ⟨hr, huse, hcyclic, hbase⟩
  · refine ⟨⟨client, d, req, .defer, log⟩, sr, ?_, hdrawn, ?_⟩
    · have harms : arms d ⟨client, d, req, .defer, log⟩ = true := arms_deferred rfl rfl
      rw [lastArming_append, if_pos harms]
    · rw [hslot]
      intro hcyclic
      exact if_pos hcyclic
  · obtain ⟨x, sr, hlast, hdrawn, hx⟩ := hold huse
    have hsame : arms d ⟨client, d, req, r, log⟩ = false := arms_answered hr
    refine ⟨x, sr, ?_, hdrawn, ?_⟩
    · rw [lastArming_append, if_neg (by simp [hsame]), hlast]
    · rw [hcyclic, hbase]
      exact hx

/-- **The write side of a move** keeps what the slot says. -/
theorem writeBase_move {h : List Exchange}
    (hm : Move gcm P client req arrival s idx entry log r s')
    (hup : (s'.writeSlot idx).inUse = true)
    (hold : (s.writeSlot idx).inUse = true → WriteBase h d (s.writeSlot idx)) :
    WriteBase (h ++ [⟨client, d, req, r, log⟩]) d (s'.writeSlot idx) := by
  have heff := write_effect d hm
  -- an exchange that neither challenges nor answers leaves the session
  have hquiet : challenges d ⟨client, d, req, r, log⟩ = false →
      answers d ⟨client, d, req, r, log⟩ = false →
      writeSession d (h ++ [⟨client, d, req, r, log⟩]) = writeSession d h := by
    intro hc ha
    rw [writeSession_append, if_neg (by simp [hc]), if_neg (by simp [ha])]
  generalize hslot : s'.writeSlot idx = slot at heff hup ⊢
  cases heff with
  | untouched frames silent =>
      obtain ⟨x, answer, hsession, hrest⟩ := hold hup
      refine ⟨x, answer, ?_, hrest⟩
      rw [hquiet (by simp [challenges, silent]) (by simp only [answers, frames]; simp), hsession]
  | dropped frames silent down => rw [down] at hup; cases hup
  | armed frames handed random binding =>
      refine ⟨_, none, ?_, random, by simp⟩
      rw [writeSession_append, if_pos (by simp [challenges, handed])]
  | consumed checked frames silent down => rw [down] at hup; cases hup
  | opened checked frames silent cyclic =>
      obtain ⟨x, answer, hsession, hdrawn, -⟩ := hold checked.inUse
      have hanswers : answers d ⟨client, d, req, r, log⟩ = true := by
        simp only [answers, frames]
        simp [pass2Frame, pass2Call, serverCall]
      refine ⟨x, some ⟨client, d, req, r, log⟩, ?_, hdrawn, ?_⟩
      · rw [writeSession_append, if_neg (by simp [challenges, silent]), if_pos hanswers, hsession]
        rfl
      · rintro y hy
        cases hy
        rfl
  | pollRefused checked frames silent hook refusal =>
      obtain ⟨x, answer, hsession, hrest⟩ := hold checked.inUse
      refine ⟨x, answer, ?_, hrest⟩
      rw [hquiet (by simp [challenges, silent]) ?_, hsession]
      simp only [answers, frames]
      simp [writePollFrame, writePollCall, serverCall, dirWritePollRequest, dirWriteRequest]
  | polled checked frames silent =>
      obtain ⟨x, answer, hsession, hrest⟩ := hold checked.inUse
      refine ⟨x, answer, ?_, hrest⟩
      rw [hquiet (by simp [challenges, silent]) ?_, hsession]
      simp only [answers, frames]
      simp [writePollFrame, writePollCall, serverCall, dirWritePollRequest, dirWriteRequest]

end Moves

/-! ## Steps -/

theorem challenges_of_ne {d : UInt32} {x : Exchange} (hd : x.dataId ≠ d) :
    challenges d x = false := by simp [challenges, hd]

theorem answers_of_ne {d : UInt32} {x : Exchange} (hd : x.dataId ≠ d) :
    answers d x = false := by simp [answers, hd]

/-- **Every read slot in use** holds the base of the arming of its entry. -/
theorem readBase_step (gcm : Gcm) (P : Ports H) (s : Server H) (a : Input H)
    (h : SlotsSatisfy readSide ReadBase s) :
    SlotsSatisfy readSide ReadBase (step gcm P s a) := by
  refine slots_step ?_ (fun _ hm hup hold => readBase_move hm hup hold) s a h
  rintro h x d slot hx ⟨y, sr, hlast, hrest⟩
  refine ⟨y, sr, ?_, hrest⟩
  have harms : arms d x = false := by
    rcases hx with hd | ⟨-, hr⟩
    · exact arms_of_ne hd
    · exact arms_answered (by simp [hr])
  rw [lastArming_append, if_neg (by simp [harms]), hlast]

/-- **Every write slot in use** holds the base of the session of its entry. -/
theorem writeBase_step (gcm : Gcm) (P : Ports H) (s : Server H) (a : Input H)
    (h : SlotsSatisfy writeSide WriteBase s) :
    SlotsSatisfy writeSide WriteBase (step gcm P s a) := by
  refine slots_step ?_ (fun _ hm hup hold => writeBase_move hm hup hold) s a h
  rintro h x d slot hx ⟨y, answer, hsession, hrest⟩
  refine ⟨y, answer, ?_, hrest⟩
  have hquiet : challenges d x = false ∧ answers d x = false := by
    rcases hx with hd | ⟨hcalls, hr⟩
    · exact ⟨challenges_of_ne hd, answers_of_ne hd⟩
    · simp [challenges, answers, issued, hr, hcalls, appliedFrames]
  rw [writeSession_append, if_neg (by simp [hquiet.1]), if_neg (by simp [hquiet.2]), hsession]

/-! ## The AEAD operations of polls -/

section Operations

variable {client arrival : UInt16} {d : UInt32} {req : List UInt8} {replyMax : Nat} {s s' : Sod}
  {host : H} {idx : Fin sodMaxEntries} {entry : SodEntry} {log : List Event} {r : SodResult}

/-- A seal made for a read poll is the one `handle_read_poll` makes. -/
theorem readPoll_seal (h : Move gcm P client req arrival s idx entry log r s') {q : Sealing}
    (hq : q ∈ sealings log) (hdir : q.call.direction = dirReadPollResponse) :
    (s.readSlot idx).inUse = true ∧ (s.readSlot idx).cyclic = true ∧
      q.call.nonce = buildSessionNonce (s.readSlot idx).nonceBase
        ((s.readSlot idx).counter + 1) := by
  have heff := read_effect entry.dataId h
  generalize s'.readSlot idx = slot at heff
  have harming : ∀ {key plain out} {sr : Rand}, sealings log =
      [⟨readArmCall P client entry req key sr, plain, out⟩] → False := by
    intro key plain out sr hseals
    rw [hseals, List.mem_singleton] at hq
    subst hq
    exact absurd hdir (by simp [readArmCall, serverCall, dirReadResponse, dirReadPollResponse])
  cases heff with
  | untouched seals => rw [seals] at hq; cases hq
  | dropped seals => rw [seals] at hq; cases hq
  | armFailed checked seals => exact (harming seals).elim
  | armed checked seals => exact (harming seals).elim
  | fetchedOnce seals => rw [seals] at hq; cases hq
  | fetchedCyclic seals => rw [seals] at hq; cases hq
  | pollFailed checked seals =>
      rw [seals, List.mem_singleton] at hq
      subst hq
      exact ⟨checked.inUse, checked.cyclic, rfl⟩
  | polled checked seals =>
      rw [seals, List.mem_singleton] at hq
      subst hq
      exact ⟨checked.inUse, checked.cyclic, rfl⟩

/-- A move makes no attempt to open a write poll, unless the request is one on a live
    cyclic slot. -/
theorem move_opens (h : Move gcm P client req arrival s idx entry log r s') {q : AeadCall}
    {cipher : List UInt8} {tag : Tag} {out : Option (List UInt8)}
    (hq : .aeadOpen q cipher tag out ∈ log) (hdir : q.direction = dirWritePollRequest) :
    entry.hasWo = true ∧ req.length = pollLen entry ∧ (s.writeSlot idx).inUse = true ∧
      (s.writeSlot idx).cyclic = true := by
  have hquiet : ∀ {l}, Quiet l → .aeadOpen q cipher tag out ∉ l := fun hl hmem => hl _ hmem
  have hpass2 : ∀ {key}, q ≠ pass2Call P (s.writeSlot idx) entry req key := by
    rintro key rfl
    exact absurd hdir (by simp [pass2Call, serverCall, dirWriteRequest, dirWritePollRequest])
  cases h with
  | refused quiet => exact absurd hq (hquiet quiet)
  | readArmFailed checked sealed =>
      simp [hquiet checked.passive.quiet] at hq
  | readArmed checked sealed => simp [hquiet checked.passive.quiet] at hq
  | readPollFailed checked passive sealed => simp [hquiet passive.quiet] at hq
  | readPolled checked passive clock gate source sealed => simp [hquiet passive.quiet] at hq
  | writeArmed wo len idle kid binding passive passive' gate guard =>
      simp [hquiet passive.quiet, hquiet passive'.quiet] at hq
  | pass2Dropped wo inUse len idle notPoll passive => exact absurd hq (hquiet passive.quiet)
  | pass2Forged checked opened => simp [hpass2] at hq
  | pass2Refused checked opened hook refusal => simp [hpass2] at hq
  | pass2Once checked opened hook single => simp [hpass2] at hq
  | pass2Cyclic checked opened hook cyclic => simp [hpass2] at hq
  | writePollForged checked opened =>
      exact ⟨checked.wo, checked.len, checked.inUse, checked.cyclic⟩
  | writePollRefused checked opened hook refusal =>
      exact ⟨checked.wo, checked.len, checked.inUse, checked.cyclic⟩
  | writePolled checked opened hook =>
      exact ⟨checked.wo, checked.len, checked.inUse, checked.cyclic⟩
  | _ => simp at hq

/-- **The attempts to open a write poll**: one for a poll that reaches the tag check, with
    the nonce of the slot, and none otherwise. -/
theorem writePoll_opens (hf : s.registry.find d = some (idx, entry)) :
    wp (sodDispatch gcm P client d req replyMax)
      (fun _ w => ∀ q, q.direction = dirWritePollRequest →
        ((∃ cipher tag out, .aeadOpen q cipher tag out ∈ w.log) ↔
          ∃ key, WritePollReaches P s host idx entry client req key ∧
            q = writePollCall P (s.writeSlot idx) entry key)) ⟨s, host, []⟩ := by
  by_cases hpoll : entry.hasWo = true ∧ req.length = pollLen entry ∧
      (s.writeSlot idx).inUse = true ∧ (s.writeSlot idx).cyclic = true
  · obtain ⟨hwo, hlen, hlive⟩ := hpoll
    have hlong := pollLen_long hlen
    have hlimit : readChallengeLen = 13 := rfl
    rw [sodDispatch_data hf hwo (by omega) fun _ => by omega, if_pos ⟨hlen, hlive⟩]
    refine wp_mono (handleWritePoll_outcome hwo) fun r w hout => ?_
    intro q hdir
    have hnone : Passive w.log → (∀ key, ¬ WritePollReaches P s host idx entry client req key) →
        ((∃ cipher tag out, .aeadOpen q cipher tag out ∈ w.log) ↔
          ∃ key, WritePollReaches P s host idx entry client req key ∧
            q = writePollCall P (s.writeSlot idx) entry key) := by
      intro hpassive hbad
      refine iff_of_false ?_ ?_
      · rintro ⟨cipher, tag, out, hmem⟩
        exact hpassive _ hmem
      · rintro ⟨key, hreaches, -⟩
        exact hbad key hreaches
    have hone : ∀ key, WritePollReaches P s host idx entry client req key →
        Tried (writePollCall P (s.writeSlot idx) entry key) w.log →
        ((∃ cipher tag out, .aeadOpen q cipher tag out ∈ w.log) ↔
          ∃ key, WritePollReaches P s host idx entry client req key ∧
            q = writePollCall P (s.writeSlot idx) entry key) := by
      intro key hreaches htried
      rw [htried q]
      constructor
      · rintro rfl
        exact ⟨key, hreaches, rfl⟩
      · rintro ⟨key', hreaches', rfl⟩
        obtain rfl : key = key' :=
          Option.some.inj (hreaches.installed.symm.trans hreaches'.installed)
        rfl
    cases hout with
    | rejected bad passive silent same => exact hnone passive bad
    | lapsed bad why passive silent down => exact hnone passive bad
    | forged reaches opened silent same tried => exact hone _ reaches tried
    | refused verifies opened hook refusal wrote same tried =>
        exact hone _ verifies.toWritePollReaches tried
    | applied verifies opened hook wrote tried =>
        exact hone _ verifies.toWritePollReaches tried
  · refine wp_mono (sodDispatch_move (w := ⟨s, host, []⟩) hf) fun r w hmove => ?_
    intro q hdir
    obtain ⟨log, hlog, hmove⟩ := hmove
    refine iff_of_false ?_ ?_
    · rintro ⟨cipher, tag, out, hmem⟩
      rw [hlog] at hmem
      exact hpoll (move_opens hmove hmem hdir)
    · rintro ⟨key, hreaches, -⟩
      exact hpoll ⟨hreaches.wo, hreaches.len, hreaches.inUse, hreaches.cyclic⟩

end Operations

/-! ## The law and the condition -/

/-- **Reads always contribute.** -/
theorem reads_contributed {s : Server H} (hread : SlotsSatisfy readSide ReadBase s)
    {client arrival : UInt16} {d : UInt32} {req : List UInt8} {s' : Sod}
    {idx : Fin sodMaxEntries} {entry : SodEntry} {log : List Event} {r : SodResult}
    (hf : s.sod.registry.find d = some (idx, entry))
    (hm : Move gcm P client req arrival s.sod idx entry log r s') :
    ∀ q ∈ sealings log, q.call.direction = dirReadPollResponse →
      ∃ x base, lastArming s.history d = some x ∧ Contributed x x base ∧
        q.call.nonce = buildSessionNonce base ((s.sod.readSlot idx).counter + 1) := by
  rintro q hq hdir
  obtain ⟨huse, hcyclic, hnonce⟩ := readPoll_seal hm hq hdir
  obtain ⟨x, sr, hlast, hdrawn, hbase⟩ := hread.at hf huse
  exact ⟨x, _, hlast, ⟨sr, hdrawn, hbase hcyclic⟩, hnonce⟩

/-- A step is contributed exactly when it opens no unanswered write poll. -/
theorem stepContributed_iff {s : Server H} (hread : SlotsSatisfy readSide ReadBase s)
    (hwrite : SlotsSatisfy writeSide WriteBase s) (a : Input H) :
    StepContributed gcm P s a ↔ PollsAnswered P s a := by
  cases a with
  | request client d req replyMax =>
      rcases request_cases gcm P s client d req replyMax with ⟨hnone, -, -⟩ |
        ⟨idx, entry, log, r, s', host, hf, hm, hx, -⟩
      · refine iff_of_true (fun idx entry hf => ?_) fun idx entry key hf => ?_
        · rw [hnone] at hf
          cases hf
        · rw [hnone] at hf
          cases hf
      have hopens : ∀ q, q.direction = dirWritePollRequest →
          ((∃ cipher tag out, .aeadOpen q cipher tag out ∈ log) ↔
            ∃ key, WritePollReaches P s.sod s.host idx entry client req key ∧
              q = writePollCall P (s.sod.writeSlot idx) entry key) := by
        have hwp : wp (sodDispatch gcm P client d req replyMax) _ ⟨s.sod, s.host, []⟩ :=
          writePoll_opens hf
        have hcalls : (exchange gcm P s client d req replyMax).calls = log := by rw [hx]
        rwa [← hcalls]
      constructor
      · rintro hlaw i e key hf' hreaches
        rw [hf] at hf'
        cases hf'
        obtain ⟨cipher, tag, out, hmem⟩ := (hopens _ rfl).mpr ⟨key, hreaches, rfl⟩
        have hpolls := hlaw idx entry hf
        rw [hx] at hpolls
        obtain ⟨x, y, base, hsession, -⟩ := hpolls.writes _ _ _ _ hmem rfl
        exact ⟨x, y, hsession⟩
      · rintro hcond i e hf'
        rw [hf] at hf'
        cases hf'
        rw [hx]
        refine ⟨reads_contributed hread hf hm, fun q cipher tag out hmem hdir => ?_⟩
        obtain ⟨key, hreaches, rfl⟩ := (hopens q hdir).mp ⟨cipher, tag, out, hmem⟩
        -- the Pass-2 frame that answered the challenge set the base the slot holds
        obtain ⟨x, y, hsession⟩ := hcond idx entry key hf hreaches
        obtain ⟨x', answer, hsession', hdrawn, hbase⟩ := hwrite.at hf hreaches.inUse
        rw [hsession] at hsession'
        cases hsession'
        exact ⟨x, y, _, hsession, ⟨_, hdrawn, hbase y rfl⟩, rfl⟩
  | registerEntry | setKeyEx | clearKeys | application => exact iff_of_true trivial trivial

/-- What holds of the slots in every state of a run. -/
def Based (s : Server H) : Prop :=
  SlotsSatisfy readSide ReadBase s ∧ SlotsSatisfy writeSide WriteBase s

/-- **Both peers contribute, exactly.**  In every run, every AEAD operation of a read poll
    or a write poll takes a nonce of `client_random XOR server_random` of its session's own
    arming, if and only if no write poll reaches the tag check before a Pass-2 frame has
    answered the last challenge for its entry. -/
theorem contributed_iff (gcm : Gcm) (P : Ports H) (host : H) (inputs : List (Input H)) :
    Along (step gcm P) (StepContributed gcm P) (boot host) inputs ↔
      Along (step gcm P) (PollsAnswered P) (boot host) inputs := by
  refine along_congr_invariant (I := Based) ?_ ?_ ⟨slots_start host, slots_start host⟩
  · rintro s a ⟨hread, hwrite⟩
    exact ⟨readBase_step gcm P s a hread, writeBase_step gcm P s a hwrite⟩
  · rintro s a ⟨hread, hwrite⟩
    exact stepContributed_iff hread hwrite a

/-! ## A worked run -/

/-- A poll a client sealed under the zero base, before any Pass-2 frame. -/
def sampleZeroPoll : Seal := pollSeal sampleKey 0x41 20 0x20100000 (zero 12) 1 [5, 6, 7, 8]

/-- A one-byte challenge marks the write slot cyclic. -/
def sampleUnanswered : List (Input (List Rand)) :=
  [.registerEntry sampleEntry, .setKeyEx 1 sampleKey 1, .request 20 0x20100000 [0x41] 64]

/-- The call is an attempt to open a write poll. -/
def opensPoll : Event → Bool
  | .aeadOpen q _ _ _ => q.direction == dirWritePollRequest
  | _ => false

/-- Once a write poll is opened, the law names the session it belongs to. -/
theorem PollsContributed.session {history : List Exchange} {d : UInt32} {calls : List Event}
    {rslot : ReadSlot} {wslot : WriteSlot} (h : PollsContributed history d calls rslot wslot)
    (hopens : calls.any opensPoll = true) : answered d history := by
  obtain ⟨e, hmem, he⟩ := List.any_eq_true.mp hopens
  cases e with
  | aeadOpen q cipher tag out =>
      obtain ⟨x, y, base, hsession, -⟩ := h.writes q cipher tag out hmem (by simpa [opensPoll] using he)
      exact ⟨x, y, hsession⟩
  | _ => cases he

/-- **An unanswered poll.**  The poll that follows the challenge directly is opened, and
    applied, under the nonce `0 XOR 1`. -/
theorem unanswered_poll :
    ¬ Along (step sampleGcm sampleReader) (StepContributed sampleGcm sampleReader)
      (boot [sampleRand 9])
      (sampleUnanswered ++ [.request 20 0x20100000 (pollRequest 1 sampleZeroPoll) 64]) := by
  rw [along_append]
  rintro ⟨-, hlast, -⟩
  have hpolls := hlast 0 sampleEntry (by decide +kernel)
  obtain ⟨x, y, hsession⟩ : answered 0x20100000 (after sampleGcm sampleReader [sampleRand 9]
      sampleUnanswered).history := hpolls.session (by decide +kernel)
  have hopen : (writeSession 0x20100000 (after sampleGcm sampleReader [sampleRand 9]
      sampleUnanswered).history).any (·.2.isSome) = false := by decide +kernel
  rw [hsession] at hopen
  cases hopen

end SofaNonceContribution
