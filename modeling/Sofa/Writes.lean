import Sofa.Server

/-! # The write side of an exchange

    What the histories of the write flow record: the challenges issued, the
    frames that verified and reached `write_after`, and what an exchange does to
    the write slot of its entry.

    `write_effect` reduces the moves to the six effects an exchange can have on
    the write side; the run invariants about writes are proved over these. -/

namespace SofaWrites

open ByteBlock SofaConfig SofaAead SofaOd SofaMoves SofaServer

/-! ## Reading a call log -/

/-- The randoms a call log drew. -/
def drawn (calls : List Event) : List Rand :=
  calls.filterMap fun
    | .random r => r
    | _ => none

/-- All randoms the port returned in a history, in order. -/
def randoms (history : List Exchange) : List Rand := history.flatMap fun x => drawn x.calls

/-- A frame that verified: the call that opened it, with its ciphertext and tag. -/
structure Frame where
  call : AeadCall
  cipher : List UInt8
  tag : Tag
  deriving DecidableEq

/-- The frames that verified in a call log. -/
def openedFrames (calls : List Event) : List Frame :=
  calls.filterMap fun
    | .aeadOpen call cipher tag (some _) => some ⟨call, cipher, tag⟩
    | _ => none

/-- The frames that verified in a history. -/
def opened (history : List Exchange) : List Frame :=
  history.flatMap fun x => openedFrames x.calls

/-- The ideal AEAD, over one history: every frame that verified is the frame of
    some seal. -/
def Justified (seals : List Seal) (history : List Exchange) : Prop :=
  ∀ f ∈ opened history, ∃ σ ∈ seals, σ.Justifies f.call f.cipher f.tag

instance (seals : List Seal) (history : List Exchange) : Decidable (Justified seals history) :=
  inferInstanceAs (Decidable (∀ f ∈ opened history, ∃ σ ∈ seals,
    σ.Justifies f.call f.cipher f.tag))

/-- The frames of a call log whose verification is followed by `write_after`. -/
def appliedFrames : List Event → List Frame
  | .aeadOpen call cipher tag (some _) :: .writeAfter _ _ _ _ :: rest =>
      ⟨call, cipher, tag⟩ :: appliedFrames rest
  | _ :: rest => appliedFrames rest
  | [] => []

/-- The frames that made the server call `write_after`, in order. -/
def applied (history : List Exchange) : List Frame :=
  history.flatMap fun x => appliedFrames x.calls

/-- The exchange handed out a write challenge: a random was drawn and the
    request was answered at once. -/
def issued (x : Exchange) : Bool :=
  match x.result with
  | .ok _ => !(drawn x.calls).isEmpty
  | _ => false

@[simp] theorem drawn_nil : drawn [] = [] := rfl

@[simp] theorem drawn_append (l m : List Event) : drawn (l ++ m) = drawn l ++ drawn m :=
  List.filterMap_append

theorem drawn_passive {l : List Event} (h : Passive l) : drawn l = [] := by
  refine List.filterMap_eq_nil_iff.mpr fun e he => ?_
  have := h e he
  cases e <;> simp_all [EventPassive]

theorem appliedFrames_quiet {l m : List Event} (h : Quiet l) :
    appliedFrames (l ++ m) = appliedFrames m := by
  induction l with
  | nil => rfl
  | cons e l ih =>
      obtain ⟨he, hl⟩ := quiet_cons.mp h
      cases e with
      | aeadOpen => cases he
      | _ => exact ih hl

theorem randoms_append (h : List Exchange) (x : Exchange) :
    randoms (h ++ [x]) = randoms h ++ drawn x.calls := by
  simp [randoms]

theorem applied_append (h : List Exchange) (x : Exchange) :
    applied (h ++ [x]) = applied h ++ appliedFrames x.calls := by
  simp [applied]

/-! ## The six effects -/

/-- The Pass-2 frame of a request. -/
def pass2Frame (P : Ports H) (slot : WriteSlot) (entry : SodEntry) (req : List UInt8)
    (key : Key) : Frame :=
  ⟨pass2Call P slot entry req key, pass2Cipher entry req, pass2Tag entry req⟩

/-- The poll frame of a request. -/
def writePollFrame (P : Ports H) (slot : WriteSlot) (entry : SodEntry) (req : List UInt8)
    (key : Key) : Frame :=
  ⟨writePollCall P slot entry key, writePollCipher entry req, writePollTag entry req⟩

variable {H : Type} {gcm : Gcm} {P : Ports H}

/-- What an exchange on an entry does on the write side: the frames it applied,
    the challenge it issued, and the write slot it leaves. -/
inductive WriteEffect (P : Ports H) (x : Exchange) (s : Sod) (idx : Fin sodMaxEntries)
    (entry : SodEntry) : WriteSlot → Prop where
  /-- Nothing. -/
  | untouched (frames : appliedFrames x.calls = []) (silent : issued x = false) :
      WriteEffect P x s idx entry (s.writeSlot idx)
  /-- The slot was torn down. -/
  | dropped {slot : WriteSlot} (frames : appliedFrames x.calls = []) (silent : issued x = false)
      (down : slot.inUse = false) : WriteEffect P x s idx entry slot
  /-- A challenge was issued. -/
  | armed {wire : Option UInt8} {sr : Rand} {now : UInt16} (frames : appliedFrames x.calls = [])
      (handed : issued x = true) (random : drawn x.calls = [sr])
      (binding : ∀ kid, wire = some kid → entry.acceptsKey (keyidBase kid) = true) :
      WriteEffect P x s idx entry (armedWriteSlot x.client wire sr now)
  /-- A Pass-2 frame reached `write_after` and the slot was torn down. -/
  | consumed {now : UInt16} {key : Key} {slot : WriteSlot}
      (checked : Pass2Checked P s idx entry x.req now key)
      (frames : appliedFrames x.calls = [pass2Frame P (s.writeSlot idx) entry x.req key])
      (silent : issued x = false) (down : slot.inUse = false) :
      WriteEffect P x s idx entry slot
  /-- A Pass-2 frame was applied and opened a session. -/
  | opened {now now' : UInt16} {key : Key}
      (checked : Pass2Checked P s idx entry x.req now key)
      (frames : appliedFrames x.calls = [pass2Frame P (s.writeSlot idx) entry x.req key])
      (silent : issued x = false) (cyclic : keyidIsCyclic (reqHead x.req) = true) :
      WriteEffect P x s idx entry
        { s.writeSlot idx with
          cyclic := true
          keyId := reqHead x.req
          nonceBase := aeadXorNonce (reqRandom x.req) (s.writeSlot idx).serverRandom
          counter := 0
          armedAt := now' }
  /-- A poll verified and `write_after` refused it. -/
  | pollRefused {now : UInt16} {key : Key} {plain : List UInt8} {rc : Abort}
      (checked : WritePollChecked s idx entry x.client x.req now key)
      (frames : appliedFrames x.calls = [writePollFrame P (s.writeSlot idx) entry x.req key])
      (silent : issued x = false)
      (hook : Event.writeAfter entry.dataId plain s.lastWriteKid rc ∈ x.calls)
      (refusal : rc ≠ abortNone) :
      WriteEffect P x s idx entry (s.writeSlot idx)
  /-- A poll was applied. -/
  | polled {now now' : UInt16} {key : Key}
      (checked : WritePollChecked s idx entry x.client x.req now key)
      (frames : appliedFrames x.calls = [writePollFrame P (s.writeSlot idx) entry x.req key])
      (silent : issued x = false) :
      WriteEffect P x s idx entry
        { s.writeSlot idx with counter := (s.writeSlot idx).counter + 1, armedAt := now' }

/-- **Every move has one of the effects.** -/
theorem write_effect {client arrival : UInt16} (dataId : UInt32) {req : List UInt8}
    {s s' : Sod} {idx : Fin sodMaxEntries} {entry : SodEntry} {log : List Event} {r : SodResult}
    (h : Move gcm P client req arrival s idx entry log r s') :
    WriteEffect P ⟨client, dataId, req, r, log⟩ s idx entry (s'.writeSlot idx) := by
  have hpre : ∀ {pre post : List Event}, Passive pre →
      appliedFrames (pre ++ post) = appliedFrames post := fun hp => appliedFrames_quiet hp.quiet
  cases h with
  | refused quiet =>
      have hframes := appliedFrames_quiet (m := []) quiet
      rw [List.append_nil] at hframes
      exact .untouched hframes rfl
  | readArmFailed checked sealed =>
      exact .untouched (by rw [hpre checked.passive]; rfl) rfl
  | readArmed checked sealed =>
      exact .untouched (by rw [hpre checked.passive]; rfl) rfl
  | fetchDropped ro empty inUse ready fresh => exact .untouched rfl rfl
  | fetchedOnce ro empty inUse ready fresh single => exact .untouched rfl rfl
  | fetchedCyclic ro empty inUse ready fresh cyclic => exact .untouched rfl rfl
  | readLapsed ro len inUse cyclic owner why => exact .untouched rfl rfl
  | readPollFailed checked passive sealed => exact .untouched (by rw [hpre passive]; rfl) rfl
  | readPolled checked passive clock gate source sealed =>
      refine .untouched (by rw [hpre passive]; rfl) ?_
      simp only [issued, drawn_append, drawn_passive passive]
      rfl
  | @writeArmed pre mid wire sr now wo len idle kid binding passive passive' gate guard =>
      have hdrawn : drawn (pre ++ .random (some sr) :: (mid ++ [.time now])) = [sr] := by
        rw [drawn_append, drawn_passive passive]
        simpa [drawn] using drawn_passive passive'
      rw [Sod.writeSlot_setWrite]
      refine .armed ?_ ?_ hdrawn fun kid hk => (binding kid hk).2.2
      · rw [hpre passive]
        exact appliedFrames_quiet passive'.quiet
      · simp [issued, hdrawn]
  | pass2Dropped wo inUse len idle notPoll passive =>
      have hframes := appliedFrames_quiet (m := []) passive.quiet
      rw [List.append_nil] at hframes
      exact .dropped hframes rfl (by simp)
  | pass2Forged checked opened => exact .dropped rfl rfl (by simp)
  | pass2Refused checked opened hook refusal =>
      exact .consumed checked rfl rfl (by simp)
  | pass2Once checked opened hook single =>
      exact .consumed checked rfl rfl (by simp)
  | pass2Cyclic checked opened hook cyclic =>
      rw [Sod.writeSlot_setWrite]
      exact .opened checked rfl rfl cyclic
  | writeLapsed wo len inUse cyclic owner why =>
      exact .dropped rfl rfl (by simp)
  | writePollForged checked opened => exact .untouched rfl rfl
  | writePollRefused checked opened hook refusal =>
      exact .pollRefused checked rfl rfl (.tail _ (.tail _ (.tail _ (.head _)))) refusal
  | writePolled checked opened hook =>
      rw [Sod.writeSlot_setWrite]
      exact .polled checked rfl rfl

/-! ## Exchanges that reach `write_after` -/

/-- A call of `write_after`. -/
def isWriteAfter : Event → Bool
  | .writeAfter .. => true
  | _ => false

/-- The facts of an exchange that called `write_after`: the frame that verified
    just before, the payload, the last write key id at the call, and its answer. -/
structure AppliedWrite (gcm : Gcm) (P : Ports H) (client : UInt16) (req : List UInt8) (s : Sod)
    (idx : Fin sodMaxEntries) (entry : SodEntry) (log : List Event) (keys' : KeyStore)
    (f : Frame) (plain : List UInt8) (kid : UInt8) (rc : Abort) : Prop where
  calls : ∃ now tail, Passive tail ∧
    log = .time now :: .roleAllowed .write (keyidBase f.call.keyId) entry.dataId true ::
      .aeadOpen f.call f.cipher f.tag (some plain) :: .writeAfter entry.dataId plain kid rc :: tail
  opened : aeadOpen gcm f.call f.cipher f.tag = some plain
  hook : ∃ host host', P.writeAfter entry.dataId plain kid s.keys host = (rc, keys', host')
  frame : (∃ now key, Pass2Checked P s idx entry req now key ∧
      f = pass2Frame P (s.writeSlot idx) entry req key ∧ kid = keyidBase (reqHead req)) ∨
    (∃ now key, WritePollChecked s idx entry client req now key ∧
      f = writePollFrame P (s.writeSlot idx) entry req key ∧ kid = s.lastWriteKid)

/-- **Every move either leaves the keys and never calls `write_after`, or calls
    it once, on a frame that has just verified.** -/
theorem apply_cases {client arrival : UInt16} {req : List UInt8} {s s' : Sod} {idx : Fin sodMaxEntries}
    {entry : SodEntry} {log : List Event} {r : SodResult}
    (h : Move gcm P client req arrival s idx entry log r s') :
    ((∀ e ∈ log, isWriteAfter e = false) ∧ s'.keys = s.keys) ∨
      ∃ f plain kid rc,
        AppliedWrite gcm P client req s idx entry log s'.keys f plain kid rc := by
  have hquiet : ∀ {l : List Event}, Quiet l → ∀ e ∈ l, isWriteAfter e = false := by
    intro l hl e he
    have := hl e he
    cases e with
    | writeAfter => cases this
    | _ => rfl
  have hpre : ∀ {pre post : List Event}, Passive pre → (∀ e ∈ post, isWriteAfter e = false) →
      ∀ e ∈ pre ++ post, isWriteAfter e = false := by
    intro pre post hp hpost e he
    rcases List.mem_append.mp he with he | he
    · exact hquiet hp.quiet e he
    · exact hpost e he
  cases h with
  | refused quiet => exact .inl ⟨hquiet quiet, rfl⟩
  | readArmFailed checked sealed => exact .inl ⟨hpre checked.passive (by simp [isWriteAfter]), rfl⟩
  | readArmed checked sealed => exact .inl ⟨hpre checked.passive (by simp [isWriteAfter]), rfl⟩
  | fetchDropped => exact .inl ⟨by simp [isWriteAfter], rfl⟩
  | fetchedOnce => exact .inl ⟨by simp [isWriteAfter], rfl⟩
  | fetchedCyclic => exact .inl ⟨by simp [isWriteAfter], rfl⟩
  | readLapsed => exact .inl ⟨by simp [isWriteAfter], rfl⟩
  | readPollFailed checked passive sealed =>
      exact .inl ⟨hpre passive (by simp [isWriteAfter]), rfl⟩
  | readPolled checked passive clock gate source sealed =>
      exact .inl ⟨hpre passive (by simp [isWriteAfter]), rfl⟩
  | writeArmed wo len idle kid binding passive passive' gate guard =>
      refine .inl ⟨hpre passive ?_, rfl⟩
      intro e he
      rcases List.mem_cons.mp he with rfl | he
      · rfl
      · exact hpre passive' (by simp [isWriteAfter]) e he
  | pass2Dropped wo inUse len idle notPoll passive => exact .inl ⟨hquiet passive.quiet, rfl⟩
  | pass2Forged => exact .inl ⟨by simp [isWriteAfter], rfl⟩
  | pass2Refused checked opened hook refusal =>
      exact .inr ⟨pass2Frame P (s.writeSlot idx) entry req _, _, _, _,
        ⟨_, _, passive_nil, rfl⟩, opened, ⟨_, _, hook⟩, .inl ⟨_, _, checked, rfl, rfl⟩⟩
  | pass2Once checked opened hook single =>
      exact .inr ⟨pass2Frame P (s.writeSlot idx) entry req _, _, _, _,
        ⟨_, _, passive_nil, rfl⟩, opened, ⟨_, _, hook⟩, .inl ⟨_, _, checked, rfl, rfl⟩⟩
  | pass2Cyclic checked opened hook cyclic =>
      exact .inr ⟨pass2Frame P (s.writeSlot idx) entry req _, _, _, _,
        ⟨_, _, by simp [EventPassive], rfl⟩, opened, ⟨_, _, hook⟩,
        .inl ⟨_, _, checked, rfl, rfl⟩⟩
  | writeLapsed => exact .inl ⟨by simp [isWriteAfter], rfl⟩
  | writePollForged => exact .inl ⟨by simp [isWriteAfter], rfl⟩
  | writePollRefused checked opened hook refusal =>
      exact .inr ⟨writePollFrame P (s.writeSlot idx) entry req _, _, _, _,
        ⟨_, _, passive_nil, rfl⟩, opened, ⟨_, _, hook⟩, .inr ⟨_, _, checked, rfl, rfl⟩⟩
  | writePolled checked opened hook =>
      exact .inr ⟨writePollFrame P (s.writeSlot idx) entry req _, _, _, _,
        ⟨_, _, by simp [EventPassive], rfl⟩, opened, ⟨_, _, hook⟩,
        .inr ⟨_, _, checked, rfl, rfl⟩⟩

section Applied

variable {client : UInt16} {req : List UInt8} {s : Sod} {idx : Fin sodMaxEntries}
  {entry : SodEntry} {log : List Event} {keys' : KeyStore} {f : Frame} {plain : List UInt8}
  {kid : UInt8} {rc : Abort}

/-- The one call of `write_after`, and what stands before it. -/
theorem AppliedWrite.split
    (h : AppliedWrite gcm P client req s idx entry log keys' f plain kid rc)
    {pre post : List Event} {d : UInt32} {src : List UInt8} {k : UInt8} {code : Abort}
    (hlog : log = pre ++ .writeAfter d src k code :: post) :
    ∃ now, pre = [.time now, .roleAllowed .write (keyidBase f.call.keyId) entry.dataId true,
        .aeadOpen f.call f.cipher f.tag (some plain)] ∧
      d = entry.dataId ∧ src = plain ∧ k = kid ∧ code = rc := by
  obtain ⟨now, tail, htail, hcalls⟩ := h.calls
  rw [hcalls] at hlog
  rcases pre with _ | ⟨a, _ | ⟨b, _ | ⟨c, _ | ⟨e, pre⟩⟩⟩⟩
  · cases hlog
  · simp at hlog
  · simp at hlog
  · simp only [List.cons_append, List.nil_append, List.cons.injEq] at hlog
    obtain ⟨rfl, rfl, rfl, hwrite, -⟩ := hlog
    cases hwrite
    exact ⟨now, rfl, rfl, rfl, rfl, rfl⟩
  · simp only [List.cons_append, List.cons.injEq] at hlog
    obtain ⟨-, -, -, -, htl⟩ := hlog
    have hmem : Event.writeAfter d src k code ∈ tail := by
      rw [htl]
      exact List.mem_append_right _ List.mem_cons_self
    exact absurd (htail _ hmem) (by simp [EventPassive])

/-- The frame is the one applied, and nothing else is. -/
theorem AppliedWrite.frames
    (h : AppliedWrite gcm P client req s idx entry log keys' f plain kid rc) :
    appliedFrames log = [f] := by
  obtain ⟨now, tail, htail, hcalls⟩ := h.calls
  have htl := appliedFrames_quiet (m := []) htail.quiet
  rw [List.append_nil] at htl
  rw [hcalls, appliedFrames, appliedFrames, appliedFrames, htl]
  · rfl
  all_goals simp

/-- The key that opened the frame is installed under the frame's key id. -/
theorem AppliedWrite.installed
    (h : AppliedWrite gcm P client req s idx entry log keys' f plain kid rc) :
    s.keys.getKey (keyidBase f.call.keyId) = some f.call.key := by
  rcases h.frame with ⟨now, key, hchecked, rfl, -⟩ | ⟨now, key, hchecked, rfl, -⟩
  · exact hchecked.installed
  · exact hchecked.installed

end Applied

/-! ## Frames of worked runs -/

/-- A client's seal of a Pass-2 frame, for the device of `samplePorts`. -/
def pass2Seal (key : Key) (kid : UInt8) (client : UInt16) (d : UInt32) (cr sr : Rand)
    (plain : List UInt8) : Seal :=
  sealOf sampleGcm ⟨key, aeadXorNonce cr sr, dirWriteRequest, kid, 1, client, d, some (cr, sr)⟩
    plain

/-- A client's seal of a write poll. -/
def pollSeal (key : Key) (kid : UInt8) (client : UInt16) (d : UInt32) (base : Nonce)
    (counter : Nat) (plain : List UInt8) : Seal :=
  sealOf sampleGcm
    ⟨key, buildSessionNonce base counter, dirWritePollRequest, kid, 1, client, d, none⟩ plain

/-- The requests that carry them. -/
def pass2Request (cr : Rand) (σ : Seal) : List UInt8 :=
  σ.call.keyId :: toList cr ++ σ.cipher ++ toList σ.tag

def pollRequest (counter : Nat) (σ : Seal) : List UInt8 :=
  UInt8.ofNat counter :: σ.cipher ++ toList σ.tag

/-- The write entry of the worked runs, open to any key. -/
def sampleEntry : SodEntry := ⟨0x20100000, 0, 0x02, 4⟩

/-- A client's seal of a cyclic Pass-2 frame that answers `sampleRand 9`. -/
def samplePass2 : Seal :=
  pass2Seal sampleKey 0x41 20 0x20100000 (sampleRand 5) (sampleRand 9) [1, 2, 3, 4]

/-- Its first poll. -/
def samplePoll : Seal :=
  pollSeal sampleKey 0x41 20 0x20100000 (aeadXorNonce (sampleRand 5) (sampleRand 9)) 1
    [5, 6, 7, 8]

/-- A session is opened and polled once. -/
def sampleSession : List (Input (List Rand)) :=
  [.registerEntry sampleEntry, .setKeyEx 1 sampleKey 1, .request 20 0x20100000 [] 64,
    .request 20 0x20100000 (pass2Request (sampleRand 5) samplePass2) 64,
    .request 20 0x20100000 (pollRequest 1 samplePoll) 64]

end SofaWrites
