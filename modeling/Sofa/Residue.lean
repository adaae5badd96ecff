import Sofa.Accepted

/-! # What a wipe of the keys leaves behind

    Decommissioning clears the key store.  The armed slots, the replies prepared in them and
    the state of their sessions live elsewhere and stay.  The model marks, next to each slot,
    whether its exchange was armed before the last wipe: its residue.

    The headline, `residue_unused`: in a run whose requests find no residue they could use, no
    reply prepared before a wipe is delivered after it, no session from before it is polled,
    and no frame is applied on a challenge from before it.  Its second half, `quiet_wipes`,
    is the condition that does not mention acceptance: every wipe finds all slots free.
    `residue_used` delivers a reply sealed under an erased key, and continues a session under
    the key installed next. -/

namespace SofaResidue

open ByteBlock SofaConfig SofaAead SofaOd SofaMoves SofaServer SofaWrites SofaReads SofaReadSession
  SofaIsolation SofaWriteFrames SofaAccepted StateWp Machine

variable {H : Type} {gcm : Gcm} {P : Ports H}

/-! ## The machine -/

/-- The server, with the residue of its slots: `true` says that the last arming of the slot
    lies before the last wipe. -/
structure Wiped (H : Type) where
  server : Server H
  read : Fin sodMaxEntries → Bool
  write : Fin sodMaxEntries → Bool

/-- One input: a wipe turns every slot into residue, and only an arming takes that back. -/
def wipedStep (gcm : Gcm) (P : Ports H) (s : Wiped H) (a : Input H) : Wiped H :=
  match a with
  | .request client d req replyMax =>
      let x := exchange gcm P s.server client d req replyMax
      match s.server.sod.registry.find d with
      | none => { s with server := step gcm P s.server a }
      | some (idx, _) =>
          ⟨step gcm P s.server a,
            Function.update s.read idx (s.read idx && x.result != .defer),
            Function.update s.write idx (s.write idx && !issued x)⟩
  | .clearKeys => ⟨step gcm P s.server a, fun _ => true, fun _ => true⟩
  | _ => { s with server := step gcm P s.server a }

/-- After `fbsec_sod_init`. -/
def wipedBoot (host : H) : Wiped H := ⟨boot host, fun _ => false, fun _ => false⟩

/-! ## The law and the condition -/

/-- No request is served from residue: the read side answers none, and no frame is applied. -/
def StepClean (gcm : Gcm) (P : Ports H) (s : Wiped H) : Input H → Prop
  | .request client d req replyMax =>
      ∀ idx entry, s.server.sod.registry.find d = some (idx, entry) →
        (s.read idx = true → ¬ servedRead (exchange gcm P s.server client d req replyMax)) ∧
        (s.write idx = true →
          appliedFrames (exchange gcm P s.server client d req replyMax).calls = [])
  | _ => True

/-- No request meets residue it could use: a prepared reply that is still fresh, a session
    whose key slot is filled, a challenge or a session its frame verifies against. -/
def NoUsableResidue (gcm : Gcm) (P : Ports H) (s : Wiped H) : Input H → Prop
  | .request client d req _ =>
      ∀ idx entry, s.server.sod.registry.find d = some (idx, entry) →
        let sod := s.server.sod
        let arrival := (P.timeMs s.server.host).1
        (s.read idx = true →
          ((sod.readSlot idx).inUse = true → ¬ fetches arrival (sod.readSlot idx) entry req) ∧
          (pollsRead (sod.readSlot idx) entry req = true →
            ageWithin arrival (sod.readSlot idx).armedAt sessionIdleTimeoutMs = true →
            sod.keys.getKey (keyidBase (sod.readSlot idx).keyId) = none)) ∧
        (s.write idx = true → ∀ key,
          ¬ Pass2Verifies gcm P sod s.server.host idx entry req key ∧
          ¬ WritePollVerifies gcm P sod s.server.host idx entry client req key)
  | _ => True

/-! ## Steps and runs -/

/-- A request that meets no usable residue is served from none. -/
theorem stepClean_of_noResidue (s : Wiped H) (a : Input H) (h : NoUsableResidue gcm P s a) :
    StepClean gcm P s a := by
  cases a with
  | registerEntry | setKeyEx | clearKeys | application => trivial
  | request client d req replyMax =>
      rintro idx entry hf
      obtain ⟨hread, hwrite⟩ := h idx entry hf
      rcases request_cases gcm P s.server client d req replyMax with
        ⟨hnone, -, -⟩ | ⟨idx', entry', log, r, s', host, hf', hm, hx, -⟩
      · rw [hnone] at hf
        cases hf
      obtain ⟨rfl, rfl⟩ : idx' = idx ∧ entry' = entry := by
        rw [hf] at hf'
        cases hf'
        exact ⟨rfl, rfl⟩
      refine ⟨fun hres hserved => ?_, fun hres => ?_⟩
      · obtain ⟨hnofetch, hnopoll⟩ := hread hres
        rcases served_cases (d := d) hm (hx ▸ hserved) with ⟨huse, hfetches⟩ | ⟨hpolls, key, hkey⟩
        · exact hnofetch huse hfetches
        · have hfresh : wp (sodDispatch gcm P client d req replyMax) _
              ⟨s.server.sod, s.server.host, []⟩ := readPoll_fresh hf hpolls
          rw [hnopoll hpolls (hfresh hserved.1)] at hkey
          cases hkey
      · have hverifies : ∀ f ∈ appliedFrames (exchange gcm P s.server client d req
            replyMax).calls, _ ∨ _ := applied_verifies hf
        refine List.eq_nil_iff_forall_not_mem.mpr fun f hmem => ?_
        rcases hverifies f hmem with ⟨-, key, hv⟩ | ⟨-, key, hv⟩
        · exact (hwrite hres key).1 hv
        · exact (hwrite hres key).2 hv

theorem along_clean {host : H} {inputs : List (Input H)}
    (hnone : Along (wipedStep gcm P) (NoUsableResidue gcm P) (wipedBoot host) inputs) :
    Along (wipedStep gcm P) (StepClean gcm P) (wipedBoot host) inputs :=
  along_imp (I := fun _ => True) (fun _ _ _ _ => trivial)
    (fun s a _ h => stepClean_of_noResidue s a h) trivial hnone

/-! ## Wipes that find every slot free -/

/-- The wipe finds every slot free. -/
def QuietWipe (s : Wiped H) : Input H → Prop
  | .clearKeys => ∀ i, (s.server.sod.readSlot i).inUse = false ∧
      (s.server.sod.writeSlot i).inUse = false
  | _ => True

instance (s : Wiped H) : ∀ a, Decidable (QuietWipe s a)
  | .clearKeys => inferInstanceAs (Decidable (∀ i, (s.server.sod.readSlot i).inUse = false ∧
      (s.server.sod.writeSlot i).inUse = false))
  | .request _ _ _ _ | .registerEntry _ | .setKeyEx _ _ _ | .application _ => .isTrue trivial

/-- Residue is not in use. -/
structure Idle (s : Wiped H) : Prop where
  read : ∀ i, s.read i = true → (s.server.sod.readSlot i).inUse = false
  write : ∀ i, s.write i = true → (s.server.sod.writeSlot i).inUse = false

section Free

variable {client arrival : UInt16} {d : UInt32} {req : List UInt8} {s s' : Sod}
  {idx : Fin sodMaxEntries} {entry : SodEntry} {log : List Event} {r : SodResult}

/-- Only an arming takes a free read slot. -/
theorem readSlot_taken (h : Move gcm P client req arrival s idx entry log r s')
    (hfree : (s.readSlot idx).inUse = false) (huse : (s'.readSlot idx).inUse = true) :
    r = .defer := by
  have heff := read_effect entry.dataId h
  generalize s'.readSlot idx = slot at heff huse
  cases heff with
  | untouched seals notDeferred silent => rw [hfree] at huse; cases huse
  | dropped seals aborted down => rw [down] at huse; cases huse
  | armFailed checked seals aborted failed => cases huse
  | armed checked seals deferred => exact deferred
  | fetchedOnce seals empty inUse ready delivered => cases huse
  | fetchedCyclic seals empty inUse ready delivered => rw [hfree] at inUse; cases inUse
  | pollFailed checked seals aborted failed => rw [hfree] at huse; cases huse
  | polled checked seals delivered => rw [checked.inUse] at hfree; cases hfree

/-- Only a challenge takes a free write slot. -/
theorem writeSlot_taken (h : Move gcm P client req arrival s idx entry log r s')
    (hfree : (s.writeSlot idx).inUse = false) (huse : (s'.writeSlot idx).inUse = true) :
    issued ⟨client, d, req, r, log⟩ = true := by
  have heff := write_effect d h
  generalize s'.writeSlot idx = slot at heff huse
  cases heff with
  | untouched frames silent => rw [hfree] at huse; cases huse
  | dropped frames silent down => rw [down] at huse; cases huse
  | armed frames handed random binding => exact handed
  | consumed checked frames silent down => rw [down] at huse; cases huse
  | opened checked frames silent cyclic => rw [checked.inUse] at hfree; cases hfree
  | pollRefused checked frames silent hook refusal => rw [hfree] at huse; cases huse
  | polled checked frames silent => rw [checked.inUse] at hfree; cases hfree

end Free

theorem idle_boot (host : H) : Idle (wipedBoot host) where
  read i h := by cases h
  write i h := by cases h

/-- One request leaves residue free. -/
theorem idle_request {s : Wiped H} (h : Idle s) (client : UInt16) (d : UInt32)
    (req : List UInt8) (replyMax : Nat) :
    Idle (wipedStep gcm P s (.request client d req replyMax)) := by
  rcases request_cases gcm P s.server client d req replyMax with
    ⟨hnone, -, hstep⟩ | ⟨idx, entry, log, r, s', host, hf, hm, hx, hstep⟩
  · simp only [wipedStep, hnone, hstep]
    exact ⟨h.read, h.write⟩
  simp only [wipedStep, hf, hx, hstep]
  refine ⟨fun i hres => ?_, fun i hres => ?_⟩
  · show (s'.readSlot i).inUse = false
    replace hres : Function.update s.read idx _ i = true := hres
    by_cases hi : i = idx
    · subst hi
      simp only [Function.update_self, Bool.and_eq_true, bne_iff_ne, ne_eq] at hres
      by_contra huse
      exact hres.2 (readSlot_taken hm (h.read i hres.1) (by simpa using huse))
    · rw [Function.update_of_ne hi] at hres
      rw [Move.readSlot_of_ne hm hi]
      exact h.read i hres
  · show (s'.writeSlot i).inUse = false
    replace hres : Function.update s.write idx _ i = true := hres
    by_cases hi : i = idx
    · subst hi
      simp only [Function.update_self, Bool.and_eq_true, Bool.not_eq_true'] at hres
      by_contra huse
      have htaken := writeSlot_taken (d := d) hm (h.write i hres.1) (by simpa using huse)
      rw [hres.2] at htaken
      cases htaken
    · rw [Function.update_of_ne hi] at hres
      rw [Move.writeSlot_of_ne hm hi]
      exact h.write i hres

/-- Every input leaves residue free, wipes of free slots included. -/
theorem idle_step (s : Wiped H) (a : Input H) (h : Idle s) (ha : QuietWipe s a) :
    Idle (wipedStep gcm P s a) := by
  have hkept : ∀ {a : Input H}, Kept s.server (step gcm P s.server a) →
      Idle { s with server := step gcm P s.server a } := by
    intro a hkept
    refine ⟨fun i hres => ?_, fun i hres => ?_⟩
    · rw [hkept.readSlot]
      exact h.read i hres
    · rw [hkept.writeSlot]
      exact h.write i hres
  cases a with
  | request client d req replyMax => exact idle_request h client d req replyMax
  | clearKeys => exact ⟨fun i _ => (ha i).1, fun i _ => (ha i).2⟩
  | registerEntry entry => exact hkept (step_kept gcm P _ (a := .registerEntry entry) (by simp))
  | setKeyEx keyId key idVal =>
      exact hkept (step_kept gcm P _ (a := .setKeyEx keyId key idVal) (by simp))
  | application host => exact hkept (step_kept gcm P _ (a := .application host) (by simp))

/-- Residue that is not in use cannot be used. -/
theorem noUsableResidue_of_idle (s : Wiped H) (a : Input H) (h : Idle s) :
    NoUsableResidue gcm P s a := by
  cases a with
  | registerEntry | setKeyEx | clearKeys | application => trivial
  | request client d req replyMax =>
      rintro idx entry -
      refine ⟨fun hres => ⟨fun huse => ?_, fun hpolls => ?_⟩, fun hres key => ⟨?_, ?_⟩⟩
      · rw [h.read idx hres] at huse
        cases huse
      · simp [pollsRead, h.read idx hres] at hpolls
      · rintro hv
        have huse := hv.inUse
        rw [h.write idx hres] at huse
        cases huse
      · rintro hv
        have huse := hv.inUse
        rw [h.write idx hres] at huse
        cases huse

theorem noUsableResidue_of_quiet {host : H} {inputs : List (Input H)}
    (hquiet : Along (wipedStep gcm P) QuietWipe (wipedBoot host) inputs) :
    Along (wipedStep gcm P) (NoUsableResidue gcm P) (wipedBoot host) inputs :=
  along_imp idle_step (fun s a h _ => noUsableResidue_of_idle s a h) (idle_boot host) hquiet

/-- **Wipes of free slots leave nothing.**  A run whose wipes find every slot free serves no
    request from residue. -/
theorem quiet_wipes {host : H} {inputs : List (Input H)}
    (hquiet : Along (wipedStep gcm P) QuietWipe (wipedBoot host) inputs) :
    Along (wipedStep gcm P) (StepClean gcm P) (wipedBoot host) inputs :=
  along_clean (noUsableResidue_of_quiet hquiet)

/-- **No use of residue.**  In every run, with wipes between any two of its requests, no
    reply prepared before a wipe is delivered after it, no session from before it is polled
    and no frame applied on a challenge from before it, when no request meets residue it
    could use; in particular when every wipe finds all slots free, a condition that says
    nothing of what the server accepts. -/
theorem residue_unused (gcm : Gcm) (P : Ports H) (host : H) (inputs : List (Input H)) :
    (Along (wipedStep gcm P) (NoUsableResidue gcm P) (wipedBoot host) inputs →
      Along (wipedStep gcm P) (StepClean gcm P) (wipedBoot host) inputs) ∧
    (Along (wipedStep gcm P) QuietWipe (wipedBoot host) inputs →
      Along (wipedStep gcm P) (StepClean gcm P) (wipedBoot host) inputs) :=
  ⟨along_clean, quiet_wipes⟩

/-! ## Worked runs -/

/-- What decommissioning does to the key store: it is cleared, and the claim token is seated
    again. -/
def sampleDecommission : List (Input (List Rand)) :=
  [.clearKeys, .setKeyEx 4 (fun i => UInt8.ofNat i.val) 4]

/-- A read is challenged under key 1, with the key id byte `kid`. -/
def sampleChallenged (kid : UInt8) : List (Input (List Rand)) :=
  [.registerEntry ⟨0x20200000, 0, 0x01, 4⟩, .setKeyEx 1 sampleKey 1,
    .request 20 0x20200000 (kid :: toList (sampleRand 5)) 64]

/-- The fetch comes after the decommissioning. -/
def sampleLeftover : List (Input (List Rand)) :=
  sampleChallenged 0x01 ++ sampleDecommission ++ [.request 20 0x20200000 [] 64]

/-- The session is polled after the decommissioning and the installation of a new key. -/
def sampleOutlived : List (Input (List Rand)) :=
  sampleChallenged 0x41 ++ [.request 20 0x20200000 [] 64] ++ sampleDecommission ++
    [.setKeyEx 1 (fun i => UInt8.ofNat (i.val + 7)) 9, .request 20 0x20200000 [1] 64]

/-- The read is fetched, the keys are wiped, and another read runs under a new key. -/
def sampleRecommissioned : List (Input (List Rand)) :=
  sampleChallenged 0x01 ++ [.request 20 0x20200000 [] 64] ++ sampleDecommission ++
    [.setKeyEx 1 (fun i => UInt8.ofNat (i.val + 7)) 9,
      .request 20 0x20200000 (0x01 :: toList (sampleRand 6)) 64, .request 20 0x20200000 [] 64]

/-- `residue_unused` on a wipe between two finished reads, which finds every slot free. -/
theorem sampleRecommissioned_clean :
    Along (wipedStep sampleGcm sampleReader) (StepClean sampleGcm sampleReader)
      (wipedBoot [sampleRand 9, sampleRand 10]) sampleRecommissioned := by
  have hquiet : Along (wipedStep sampleGcm sampleReader) QuietWipe
      (wipedBoot [sampleRand 9, sampleRand 10]) sampleRecommissioned := by decide +kernel
  obtain ⟨hresidue, -⟩ := residue_unused sampleGcm sampleReader
    [sampleRand 9, sampleRand 10] sampleRecommissioned
  exact hresidue (noUsableResidue_of_quiet hquiet)

/-- **Residue in use.**  After the decommissioning the server delivers the reply sealed under
    the erased key; and with a new key in the same slot it goes on with the old session. -/
theorem residue_used :
    ¬ Along (wipedStep sampleGcm sampleReader) (StepClean sampleGcm sampleReader)
      (wipedBoot [sampleRand 9]) sampleLeftover ∧
    ¬ Along (wipedStep sampleGcm sampleReader) (StepClean sampleGcm sampleReader)
      (wipedBoot [sampleRand 9]) sampleOutlived := by
  have hused : ∀ {s : Wiped (List Rand)} {req : List UInt8},
      StepClean sampleGcm sampleReader s (.request 20 0x20200000 req 64) →
      s.server.sod.registry.find 0x20200000 = some (0, ⟨0x20200000, 0, 0x01, 4⟩) →
      s.read 0 = true →
      ¬ servedRead (exchange sampleGcm sampleReader s.server 20 0x20200000 req 64) :=
    fun h hfind hres => (h _ _ hfind).1 hres
  refine ⟨?_, ?_⟩
  · rintro ⟨-, -, -, -, -, hlast, -⟩
    exact hused hlast (by decide +kernel) (by decide +kernel) (by decide +kernel)
  · rintro ⟨-, -, -, -, -, -, -, hlast, -⟩
    exact hused hlast (by decide +kernel) (by decide +kernel) (by decide +kernel)

end SofaResidue
