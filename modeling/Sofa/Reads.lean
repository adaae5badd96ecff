import Sofa.Server

/-! # The read side of an exchange

    The seals a history records, and what an exchange does to the read slot of
    its entry.  `read_effect` reduces the moves to the effects an exchange can
    have on the read side; the run invariants about reads are proved over these. -/

namespace SofaReads

open ByteBlock SofaConfig SofaAead SofaOd SofaMoves SofaServer

/-! ## Seals in a call log -/

/-- The seals of a call log, in order. -/
def sealings (calls : List Event) : List Sealing :=
  calls.filterMap fun
    | .aeadSeal call plain out => some ⟨call, plain, out⟩
    | _ => none

/-- The seals of a history, in order. -/
def sealed (history : List Exchange) : List Sealing := history.flatMap fun x => sealings x.calls

@[simp] theorem sealings_nil : sealings [] = [] := rfl

theorem sealings_append (l m : List Event) : sealings (l ++ m) = sealings l ++ sealings m :=
  List.filterMap_append

theorem sealings_quiet {l : List Event} (h : Quiet l) : sealings l = [] := by
  refine List.filterMap_eq_nil_iff.mpr fun e he => ?_
  have := h e he
  cases e with
  | aeadSeal => cases this
  | _ => rfl

theorem sealings_passive {pre post : List Event} (h : Passive pre) :
    sealings (pre ++ post) = sealings post := by
  rw [sealings_append, sealings_quiet h.quiet, List.nil_append]

theorem sealed_append (h : List Exchange) (x : Exchange) :
    sealed (h ++ [x]) = sealed h ++ sealings x.calls := by
  simp [sealed]

/-! ## The effects -/

variable {H : Type} {gcm : Gcm} {P : Ports H}

/-- What an exchange on an entry does on the read side: the seals it made, the
    reply it delivered, and the read slot it leaves. -/
inductive ReadEffect (gcm : Gcm) (P : Ports H) (arrival : UInt16) (x : Exchange) (s : Sod)
    (idx : Fin sodMaxEntries) (entry : SodEntry) : ReadSlot → Prop where
  /-- Nothing, and nothing delivered from the read side. -/
  | untouched (seals : sealings x.calls = []) (notDeferred : x.result ≠ .defer)
      (silent : readAnswers arrival (s.readSlot idx) entry x.req = true →
        ∀ reply, x.result ≠ .ok reply) :
      ReadEffect gcm P arrival x s idx entry (s.readSlot idx)
  /-- The slot was torn down. -/
  | dropped {slot : ReadSlot} {code : Abort} (seals : sealings x.calls = [])
      (aborted : x.result = .abort code) (down : slot.inUse = false) :
      ReadEffect gcm P arrival x s idx entry slot
  /-- The seal of an arming failed. -/
  | armFailed {pre : List Event} {key : Key} {plain : List UInt8} {sr : Rand}
      (checked : ReadArmChecked s idx entry x.client x.req key plain pre)
      (seals : sealings x.calls = [⟨readArmCall P x.client entry x.req key sr, plain, none⟩])
      (aborted : x.result = .abort abortInternal)
      (failed : aeadSeal gcm (readArmCall P x.client entry x.req key sr) plain = none) :
      ReadEffect gcm P arrival x s idx entry {}
  /-- A challenge was answered by a seal, held in the slot. -/
  | armed {pre : List Event} {key : Key} {plain cipher : List UInt8} {sr : Rand} {tag : Tag}
      {now : UInt16} (checked : ReadArmChecked s idx entry x.client x.req key plain pre)
      (seals : sealings x.calls =
        [⟨readArmCall P x.client entry x.req key sr, plain, some (cipher, tag)⟩])
      (deferred : x.result = .defer) :
      ReadEffect gcm P arrival x s idx entry (armedReadSlot x.client x.req sr cipher tag now)
  /-- The prepared reply of a single-shot read was delivered. -/
  | fetchedOnce (seals : sealings x.calls = []) (empty : x.req = [])
      (inUse : (s.readSlot idx).inUse = true) (ready : (s.readSlot idx).prepared ≠ [])
      (delivered : x.result = .ok (s.readSlot idx).prepared) :
      ReadEffect gcm P arrival x s idx entry { s.readSlot idx with inUse := false }
  /-- The prepared reply of a cyclic read was delivered; the session stays. -/
  | fetchedCyclic {now : UInt16} (seals : sealings x.calls = []) (empty : x.req = [])
      (inUse : (s.readSlot idx).inUse = true) (ready : (s.readSlot idx).prepared ≠ [])
      (delivered : x.result = .ok (s.readSlot idx).prepared) :
      ReadEffect gcm P arrival x s idx entry
        { s.readSlot idx with prepared := [], armedAt := now }
  /-- The seal of a poll failed. -/
  | pollFailed {now : UInt16} {key : Key} {plain : List UInt8}
      (checked : ReadPollChecked s idx entry x.client x.req now key plain)
      (seals : sealings x.calls = [⟨readPollCall P (s.readSlot idx) entry key, plain, none⟩])
      (aborted : x.result = .abort abortInternal)
      (failed : aeadSeal gcm (readPollCall P (s.readSlot idx) entry key) plain = none) :
      ReadEffect gcm P arrival x s idx entry (s.readSlot idx)
  /-- A poll was answered by a seal. -/
  | polled {now now' : UInt16} {key : Key} {plain cipher : List UInt8} {tag : Tag}
      (checked : ReadPollChecked s idx entry x.client x.req now key plain)
      (seals : sealings x.calls =
        [⟨readPollCall P (s.readSlot idx) entry key, plain, some (cipher, tag)⟩])
      (delivered : x.result =
        .ok (UInt8.ofNat ((s.readSlot idx).counter + 1) :: cipher ++ toList tag)) :
      ReadEffect gcm P arrival x s idx entry
        { s.readSlot idx with counter := (s.readSlot idx).counter + 1, armedAt := now' }

/-- The read side only answers empty, one-byte and challenge-sized requests. -/
theorem readAnswers_length {arrival : UInt16} {slot : ReadSlot} {entry : SodEntry}
    {req : List UInt8} (h : readAnswers arrival slot entry req = true) :
    entry.hasRo = true ∧ (req.length = readChallengeLen ∨ req.length ≤ 1) := by
  simp only [readAnswers, Bool.and_eq_true, Bool.or_eq_true, beq_iff_eq] at h
  obtain ⟨hro, (hlen | ⟨⟨hlen, -⟩, -⟩) | ⟨⟨⟨hlen, -⟩, -⟩, -⟩⟩ := h
  · exact ⟨hro, .inl hlen⟩
  · exact ⟨hro, .inr (by omega)⟩
  · exact ⟨hro, .inr (by omega)⟩

theorem not_readAnswers_of_long {arrival : UInt16} {slot : ReadSlot} {entry : SodEntry}
    {req : List UInt8} (hlen : readChallengeLen < req.length) :
    readAnswers arrival slot entry req ≠ true := by
  intro h
  have hlimit : readChallengeLen = 13 := rfl
  have := (readAnswers_length h).2
  omega

theorem pass2Len_long {entry : SodEntry} {req : List UInt8} (hlen : req.length = pass2Len entry) :
    readChallengeLen < req.length := by
  have hlimit : readChallengeLen = 13 := rfl
  rw [pass2Len_eq] at hlen
  omega

theorem pollLen_long {entry : SodEntry} {req : List UInt8} (hlen : req.length = pollLen entry) :
    readChallengeLen < req.length := by
  have hlimit : readChallengeLen = 13 := rfl
  rw [pollLen_eq] at hlen
  omega

/-- **Every move has one of the effects.** -/
theorem read_effect {client arrival : UInt16} (dataId : UInt32) {req : List UInt8}
    {s s' : Sod} {idx : Fin sodMaxEntries} {entry : SodEntry} {log : List Event} {r : SodResult}
    (h : Move gcm P client req arrival s idx entry log r s') :
    ReadEffect gcm P arrival ⟨client, dataId, req, r, log⟩ s idx entry (s'.readSlot idx) := by
  cases h with
  | refused quiet => exact .untouched (sealings_quiet quiet) (by simp) (by simp)
  | readArmFailed checked sealed =>
      rw [Sod.readSlot_setRead]
      exact .armFailed checked (by rw [sealings_passive checked.passive]; rfl) rfl sealed
  | readArmed checked sealed =>
      rw [Sod.readSlot_setRead]
      exact .armed checked (by rw [sealings_passive checked.passive]; rfl) rfl
  | fetchDropped ro empty inUse ready fresh => exact .dropped rfl rfl (by simp)
  | fetchedOnce ro empty inUse ready fresh single =>
      rw [Sod.readSlot_setRead]
      exact .fetchedOnce rfl empty inUse ready rfl
  | fetchedCyclic ro empty inUse ready fresh cyclic =>
      rw [Sod.readSlot_setRead]
      exact .fetchedCyclic rfl empty inUse ready rfl
  | readLapsed ro len inUse cyclic owner why => exact .dropped rfl rfl (by simp)
  | readPollFailed checked passive sealed =>
      exact .pollFailed checked (by rw [sealings_passive passive]; rfl) rfl sealed
  | readPolled checked passive clock gate source sealed =>
      rw [Sod.readSlot_setRead]
      exact .polled checked (by rw [sealings_passive passive]; rfl) rfl
  | writeArmed wo len idle kid binding passive passive' gate guard =>
      refine .untouched ?_ (by simp) (fun hans => by rw [idle] at hans; cases hans)
      rw [sealings_passive passive, List.cons_append.symm]
      exact sealings_quiet (by simp [EventQuiet, EventPassive, passive'.quiet])
  | pass2Dropped wo inUse len idle notPoll passive =>
      exact .untouched (sealings_quiet passive.quiet) (by simp) (by simp)
  | pass2Forged checked opened => exact .untouched rfl (by simp) (by simp)
  | pass2Refused checked opened hook refusal => exact .untouched rfl (by simp) (by simp)
  | pass2Once checked opened hook single =>
      exact .untouched rfl (by simp)
        (fun h => absurd h (not_readAnswers_of_long (pass2Len_long checked.len)))
  | pass2Cyclic checked opened hook cyclic =>
      exact .untouched rfl (by simp)
        (fun h => absurd h (not_readAnswers_of_long (pass2Len_long checked.len)))
  | writeLapsed wo len inUse cyclic owner why => exact .untouched rfl (by simp) (by simp)
  | writePollForged checked opened => exact .untouched rfl (by simp) (by simp)
  | writePollRefused checked opened hook refusal => exact .untouched rfl (by simp) (by simp)
  | writePolled checked opened hook =>
      exact .untouched rfl (by simp)
        (fun h => absurd h (not_readAnswers_of_long (pollLen_long checked.len)))

/-- What a seal of the log says it gave is what the AEAD gives. -/
def Made (gcm : Gcm) (calls : List Event) : Prop :=
  ∀ q ∈ sealings calls, aeadSeal gcm q.call q.plain = q.out

theorem made_quiet {log : List Event} (h : Quiet log) : Made gcm log := by
  rw [Made, sealings_quiet h]
  exact List.forall_mem_nil _

theorem made_single {log : List Event} {call : AeadCall} {plain : List UInt8}
    {out : Option (List UInt8 × Tag)} (h : sealings log = [⟨call, plain, out⟩])
    (hseal : aeadSeal gcm call plain = out) : Made gcm log := by
  rw [Made, h]
  exact List.forall_mem_singleton.mpr hseal

/-- **The log is honest**: the seals of a move are calls of `fbsec_aead_seal`. -/
theorem sealings_made {client arrival : UInt16} {req : List UInt8} {s s' : Sod}
    {idx : Fin sodMaxEntries} {entry : SodEntry} {log : List Event} {r : SodResult}
    (h : Move gcm P client req arrival s idx entry log r s') : Made gcm log := by
  cases h with
  | refused quiet => exact made_quiet quiet
  | readArmFailed checked hseal | readArmed checked hseal =>
      exact made_single (by rw [sealings_passive checked.passive]; rfl) hseal
  | readPollFailed checked passive hseal =>
      exact made_single (by rw [sealings_passive passive]; rfl) hseal
  | readPolled checked passive clock gate source hseal =>
      exact made_single (by rw [sealings_passive passive]; rfl) hseal
  | writeArmed wo len idle kid binding passive passive' gate guard =>
      rw [Made, sealings_passive passive]
      exact made_quiet (by simp [EventQuiet, EventPassive, passive'.quiet])
  | pass2Dropped wo inUse len idle notPoll passive => exact made_quiet passive.quiet
  | _ => exact List.forall_mem_nil _

end SofaReads
