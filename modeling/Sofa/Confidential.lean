import Sofa.Reads
import Sofa.Writes

/-! # Confidential entries

    The mode of a read is chosen by the key id byte of the challenge that arms it,
    and stays with the slot until the session ends.  Nothing on the way compares
    it with the entry's CONFIDENTIAL flag.

    The headline, `replies_encrypted`: when every challenge to a confidential
    entry asks for encryption, every reply the read side delivers for one is the
    server random or the counter byte, and then what a seal in the encrypting mode
    gave.  `plain_reply` is a run in which a client
    clears the bit and reads a confidential entry in clear. -/

namespace SofaConfidential

open ByteBlock SofaConfig SofaAead SofaOd SofaMoves SofaServer SofaReads Machine
open SofaWrites (drawn drawn_append drawn_passive)

variable {H : Type} {gcm : Gcm} {P : Ports H}

/-! ## The seal behind a reply -/

/-- The exchange armed a read of `d`. -/
def arms (d : UInt32) (x : Exchange) : Bool := x.dataId == d && x.result == .defer

/-- The latest challenge that armed a read of `d`. -/
def lastArming (history : List Exchange) (d : UInt32) : Option Exchange :=
  (history.filter (arms d)).getLast?

/-- The seals whose output an exchange delivers: a fetch delivers what the latest
    arming sealed, a poll what it seals itself. -/
def delivered (history : List Exchange) (x : Exchange) : List Sealing :=
  if x.req = [] then (lastArming history x.dataId).elim [] (sealings ·.calls)
  else sealings x.calls

/-- What stands in front of the ciphertext: of a fetched reply the server random that the
    latest arming drew, of a polled one the byte of the next counter. -/
def head (history : List Exchange) (slot : ReadSlot) (x : Exchange) : List UInt8 :=
  if x.req = [] then (lastArming history x.dataId).elim [] fun y => (drawn y.calls).flatMap toList
  else [UInt8.ofNat (slot.counter + 1)]

/-- The reply is the server random or the counter byte, then the ciphertext and tag that
    the one seal behind it gave in the encrypting mode, and nothing else. -/
def Encrypted (gcm : Gcm) (history : List Exchange) (slot : ReadSlot) (x : Exchange)
    (reply : List UInt8) : Prop :=
  ∃ call plain cipher tag, delivered history x = [⟨call, plain, some (cipher, tag)⟩] ∧
    aeadSeal gcm call plain = some (cipher, tag) ∧ keyidEncrypt call.keyId = true ∧
    reply = head history slot x ++ cipher ++ toList tag

/-- Every reply that the read side delivers for a SECURE_RO and CONFIDENTIAL entry is
    encrypted. -/
def StepConfidential (gcm : Gcm) (P : Ports H) (s : Server H) : Input H → Prop
  | .request client d req replyMax => ∀ idx entry, s.sod.registry.find d = some (idx, entry) →
      entry.hasRo = true → entry.confidential = true →
      readAnswers (P.timeMs s.host).1 (s.sod.readSlot idx) entry req = true →
      ∀ reply, (exchange gcm P s client d req replyMax).result = .ok reply →
        Encrypted gcm s.history (s.sod.readSlot idx) (exchange gcm P s client d req replyMax) reply
  | _ => True

/-! ## The condition -/

/-- Challenges to confidential entries ask for encryption, and no entry becomes
    confidential while a read of it armed without encryption is held. -/
def AsksEncryption (s : Server H) : Input H → Prop
  | .request _ d req _ => ∀ found ∈ s.sod.registry.find d, found.2.hasRo = true →
      found.2.confidential = true → req.length = readChallengeLen →
      keyidEncrypt (reqHead req) = true
  | .registerEntry entry => ∀ found ∈ s.sod.registry.find entry.dataId, entry.hasRo = true →
      entry.confidential = true → (s.sod.readSlot found.1).inUse = true →
      ∀ x ∈ lastArming s.history entry.dataId, keyidEncrypt (reqHead x.req) = true
  | _ => True

instance (s : Server H) : ∀ a, Decidable (AsksEncryption s a)
  | .request _ d _ _ => inferInstanceAs (Decidable (∀ found ∈ s.sod.registry.find d, _ → _))
  | .registerEntry entry => inferInstanceAs
      (Decidable (∀ found ∈ s.sod.registry.find entry.dataId, _ → _))
  | .setKeyEx _ _ _ | .clearKeys | .application _ => .isTrue trivial

/-! ## The latest arming -/

/-- **A challenge that is answered later** drew the random that its seal is bound to. -/
theorem drawn_deferred {client arrival : UInt16} {req : List UInt8} {s s' : Sod}
    {idx : Fin sodMaxEntries} {entry : SodEntry} {log : List Event}
    (h : Move gcm P client req arrival s idx entry log .defer s') :
    ∃ key plain out sr, sealings log = [⟨readArmCall P client entry req key sr, plain, out⟩] ∧
      drawn log = [sr] := by
  cases h with
  | @readArmed pre key plain cipher sr tag now checked hseal =>
      refine ⟨key, plain, some (cipher, tag), sr, ?_, ?_⟩
      · rw [sealings_passive checked.passive]
        rfl
      · rw [drawn_append, drawn_passive checked.passive]
        rfl

theorem lastArming_append (h : List Exchange) (x : Exchange) (d : UInt32) :
    lastArming (h ++ [x]) d = if arms d x then some x else lastArming h d := by
  unfold lastArming
  rw [List.filter_append]
  by_cases ha : arms d x = true
  · simp [ha]
  · simp [ha]

theorem arms_deferred {d : UInt32} {x : Exchange} (hd : x.dataId = d) (hr : x.result = .defer) :
    arms d x = true := by
  simp [arms, hd, hr]

theorem arms_of_ne {d : UInt32} {x : Exchange} (hd : x.dataId ≠ d) : arms d x = false := by
  simp [arms, hd]

theorem arms_answered {d : UInt32} {x : Exchange} (hr : x.result ≠ .defer) :
    arms d x = false := by
  simp [arms, hr]

/-! ## The invariant -/

/-- What a held read slot says about the exchange that armed it. -/
structure ArmedBy (gcm : Gcm) (slot : ReadSlot) (entry : SodEntry) (x : Exchange) : Prop where
  prepared : ∃ call plain cipher tag sr, sealings x.calls = [⟨call, plain, some (cipher, tag)⟩] ∧
    aeadSeal gcm call plain = some (cipher, tag) ∧ call.keyId = reqHead x.req ∧
    drawn x.calls = [sr] ∧
    (slot.prepared ≠ [] → slot.prepared = toList sr ++ cipher ++ toList tag)
  keyId : slot.cyclic = true → slot.keyId = reqHead x.req
  mode : entry.hasRo = true → entry.confidential = true → keyidEncrypt (reqHead x.req) = true

/-- Every read slot in use was armed by the latest challenge to its entry. -/
def Armed (gcm : Gcm) (s : Server H) : Prop :=
  ∀ i, (s.sod.readSlot i).inUse = true → ∃ d entry x,
    s.sod.registry.find d = some (i, entry) ∧ lastArming s.history d = some x ∧
    ArmedBy gcm (s.sod.readSlot i) entry x

theorem Armed.start (host : H) : Armed gcm (boot host) := by
  simp [Armed, boot, sodInit]

/-- The arming exchange of the entry at hand. -/
theorem Armed.at {s : Server H} (h : Armed gcm s) {d : UInt32} {idx : Fin sodMaxEntries}
    {entry : SodEntry} (hf : s.sod.registry.find d = some (idx, entry))
    (hi : (s.sod.readSlot idx).inUse = true) :
    ∃ x, lastArming s.history d = some x ∧ ArmedBy gcm (s.sod.readSlot idx) entry x := by
  obtain ⟨d', e, x, hf', hx, hby⟩ := h idx hi
  obtain rfl : d' = d := find_index hf' hf
  rw [hf] at hf'
  cases hf'
  exact ⟨x, hx, hby⟩

/-- An exchange keeps the invariant when the slot it leaves in use was armed by
    the challenge that is now the latest. -/
theorem Armed.exchanged {s : Server H} {s' : Sod} {host : H} {x : Exchange}
    {idx : Fin sodMaxEntries} {entry : SodEntry} (h : Armed gcm s)
    (hf : s.sod.registry.find x.dataId = some (idx, entry)) (hreg : s'.registry = s.sod.registry)
    (hother : ∀ i, i ≠ idx → s'.readSlot i = s.sod.readSlot i)
    (hslot : (s'.readSlot idx).inUse = true →
      ∃ y, lastArming (s.history ++ [x]) x.dataId = some y ∧ ArmedBy gcm (s'.readSlot idx) entry y) :
    Armed gcm ⟨s', host, s.history ++ [x]⟩ := by
  intro i hi
  simp only [hreg] at hi ⊢
  by_cases hidx : i = idx
  · subst hidx
    obtain ⟨y, hy, hby⟩ := hslot hi
    exact ⟨x.dataId, entry, y, hf, hy, hby⟩
  · rw [hother i hidx] at hi ⊢
    obtain ⟨d, e, y, hf', hy, hby⟩ := h i hi
    have hd : x.dataId ≠ d := by
      rintro rfl
      rw [hf] at hf'
      cases hf'
      exact hidx rfl
    refine ⟨d, e, y, hf', ?_, hby⟩
    rw [lastArming_append, arms_of_ne hd]
    exact hy

/-- **One request keeps the invariant** when it meets the condition. -/
theorem armed_request {s : Server H} {client : UInt16} {d : UInt32} {req : List UInt8}
    {replyMax : Nat} (h : Armed gcm s)
    (hasks : AsksEncryption s (.request client d req replyMax)) :
    Armed gcm (step gcm P s (.request client d req replyMax)) := by
  rcases request_cases gcm P s client d req replyMax with ⟨-, -, hstep⟩ |
    ⟨idx, entry, log, r, s', host, hf, hmove, -, hstep⟩
  · rw [hstep]
    intro i hi
    obtain ⟨d', e, y, hf', hy, hby⟩ := h i hi
    refine ⟨d', e, y, hf', ?_, hby⟩
    rw [lastArming_append, arms_answered (by simp)]
    exact hy
  · rw [hstep]
    refine h.exchanged hf (Move.registry hmove) (fun i => Move.readSlot_of_ne hmove) ?_
    have heff := read_effect d hmove
    generalize hslot' : s'.readSlot idx = slot' at heff ⊢
    intro hi
    -- the challenge that armed the slot is still the latest
    have hkeep : r ≠ .defer → (s.sod.readSlot idx).inUse = true →
        ∃ y, lastArming (s.history ++ [⟨client, d, req, r, log⟩]) d = some y ∧
          ArmedBy gcm (s.sod.readSlot idx) entry y := by
      intro hr hi'
      obtain ⟨y, hy, hby⟩ := h.at hf hi'
      refine ⟨y, ?_, hby⟩
      rw [lastArming_append, arms_answered hr]
      exact hy
    cases heff with
    | untouched seals notDeferred silent => exact hkeep notDeferred hi
    | dropped seals aborted down => simp [down] at hi
    | armFailed checked seals aborted failed => simp at hi
    | @armed pre key plain cipher sr tag now checked seals deferred =>
        refine ⟨⟨client, d, req, r, log⟩, ?_, ?_, ?_, ?_⟩
        · rw [lastArming_append, arms_deferred rfl deferred, if_pos rfl]
        · -- the random in front is the one that was drawn
          obtain rfl : r = .defer := deferred
          obtain ⟨key', plain', out', sr', hseals, hdrawn⟩ := drawn_deferred hmove
          have hsame := List.head_eq_of_cons_eq (hseals.symm.trans seals)
          have hsr : sr' = sr := by
            have hrandoms := congrArg (fun q : Sealing => q.call.randoms) hsame
            exact congrArg Prod.snd (Option.some.inj hrandoms)
          have hmade := sealings_made hmove _ (seals ▸ List.mem_singleton_self _)
          exact ⟨_, plain, cipher, tag, sr, seals, hmade, rfl, hsr ▸ hdrawn, fun _ => rfl⟩
        · intro hc
          have hkid : keyidIsCyclic (reqHead req) = true := hc
          simp [armedReadSlot, hkid]
        · intro hro hconf
          exact hasks (idx, entry) hf hro hconf checked.len
    | fetchedOnce seals empty inUse ready out => simp at hi
    | fetchedCyclic seals empty inUse ready out =>
        obtain ⟨y, hy, hby⟩ := hkeep (by rw [show r = _ from out]; simp) inUse
        obtain ⟨call, plain, cipher, tag, sr, hseal, hmade, hkid, hdrawn, -⟩ := hby.prepared
        exact ⟨y, hy, ⟨call, plain, cipher, tag, sr, hseal, hmade, hkid, hdrawn, by simp⟩,
          hby.keyId, hby.mode⟩
    | pollFailed checked seals aborted failed =>
        exact hkeep (by rw [show r = _ from aborted]; simp) hi
    | polled checked seals out =>
        obtain ⟨y, hy, hby⟩ := hkeep (by rw [show r = _ from out]; simp) checked.inUse
        exact ⟨y, hy, hby.prepared, hby.keyId, hby.mode⟩

/-- Every step that meets the condition keeps the invariant. -/
theorem armed_step (s : Server H) (a : Input H) (h : Armed gcm s)
    (hasks : AsksEncryption s a) : Armed gcm (step gcm P s a) := by
  refine step_invariant (C := AsksEncryption) (fun s client d req replyMax h hasks =>
    armed_request h hasks) ?_ s a h hasks
  intro s a h hasks hkept i hi
  rw [hkept.readSlot] at hi ⊢
  obtain ⟨d, e, y, hf, hy, hby⟩ := h i hi
  obtain ⟨e', hf', hsame | ⟨hd, rfl⟩⟩ := step_entry gcm P s a hf
  · rw [hsame] at hf'
    exact ⟨d, e, y, hf', by rw [hkept.history]; exact hy, hby⟩
  · refine ⟨d, e', y, hf', by rw [hkept.history]; exact hy, hby.prepared, hby.keyId, ?_⟩
    intro hro hconf
    rw [← hd] at hf hy
    exact hasks (i, e) hf hro hconf hi y hy

/-! ## The headline -/

/-- From the invariant, what one step delivers is encrypted. -/
theorem step_confidential (s : Server H) (a : Input H) (h : Armed gcm s) :
    StepConfidential gcm P s a := by
  cases a with
  | request client d req replyMax =>
      intro idx entry hf hro hconf hans reply hreply
      rcases request_cases gcm P s client d req replyMax with ⟨hnone, -, -⟩ |
        ⟨idx', entry', log, r, s', host, hf', hmove, hx, -⟩
      · rw [hnone] at hf
        cases hf
      · rw [hf] at hf'
        cases hf'
        rw [hx] at hreply ⊢
        have heff := read_effect d hmove
        -- a fetch delivers the output of the latest arming
        have hfetch : req = [] → (s.sod.readSlot idx).inUse = true →
            (s.sod.readSlot idx).prepared ≠ [] → r = .ok (s.sod.readSlot idx).prepared →
            Encrypted gcm s.history (s.sod.readSlot idx) ⟨client, d, req, r, log⟩ reply := by
          rintro rfl hi hready rfl
          obtain ⟨y, hy, hby⟩ := h.at hf hi
          obtain ⟨call, plain, cipher, tag, sr, hseal, hmade, hkid, hdrawn, hprep⟩ := hby.prepared
          refine ⟨call, plain, cipher, tag, ?_, hmade, ?_, ?_⟩
          · simp [delivered, hy, hseal]
          · rw [hkid]
            exact hby.mode hro hconf
          · cases hreply
            simpa [head, hy, hdrawn] using hprep hready
        generalize s'.readSlot idx = slot' at heff
        cases heff with
        | untouched seals notDeferred silent => exact absurd hreply (silent hans reply)
        | dropped seals aborted down => cases aborted.symm.trans hreply
        | armFailed checked seals aborted failed => cases aborted.symm.trans hreply
        | armed checked seals deferred => cases deferred.symm.trans hreply
        | fetchedOnce seals empty inUse ready out => exact hfetch empty inUse ready out
        | fetchedCyclic seals empty inUse ready out => exact hfetch empty inUse ready out
        | pollFailed checked seals aborted failed => cases aborted.symm.trans hreply
        | @polled now now' key plain cipher tag checked seals out =>
            obtain ⟨y, -, hby⟩ := h.at hf checked.inUse
            have hlen := checked.len
            have hne : req ≠ [] := by
              rintro rfl
              cases hlen
            refine ⟨readPollCall P (s.sod.readSlot idx) entry key, plain, cipher, tag, ?_,
              sealings_made hmove _ (seals ▸ List.mem_singleton_self _), ?_, ?_⟩
            · rw [delivered, if_neg hne]
              exact seals
            · have hkid := hby.keyId checked.cyclic
              simp only [readPollCall, serverCall, hkid]
              exact hby.mode hro hconf
            · rw [head, if_neg hne]
              cases out.symm.trans hreply
              rfl
  | registerEntry | setKeyEx | clearKeys | application => trivial

/-- **Confidential replies are encrypted**, in every run in which every challenge to
    a confidential entry asks for encryption. -/
theorem replies_encrypted (gcm : Gcm) (P : Ports H) (host : H) (inputs : List (Input H))
    (hasks : Along (step gcm P) AsksEncryption (boot host) inputs) :
    Along (step gcm P) (StepConfidential gcm P) (boot host) inputs :=
  along_imp armed_step (fun s a h _ => step_confidential s a h) (Armed.start host) hasks

/-! ## Worked runs -/

/-- A confidential read entry of four bytes is challenged with the given key id
    byte, and the reply is fetched. -/
def sampleSecret (kid : UInt8) : List (Input (List Rand)) :=
  [.registerEntry ⟨0x20200000, 0, 0x05, 4⟩, .setKeyEx 1 sampleKey 1,
    .request 20 0x20200000 (kid :: toList (sampleRand 5)) 64, .request 20 0x20200000 [] 64]

/-- `replies_encrypted` on a read in the encrypting mode. -/
theorem sampleSecret_encrypted :
    Along (step sampleGcm sampleReader) (StepConfidential sampleGcm sampleReader)
      (boot [sampleRand 9]) (sampleSecret 0x81) :=
  replies_encrypted _ _ _ _ (by decide +kernel)

/-- The server after the challenge, and the fetch that follows. -/
def sampleSecretArmed (kid : UInt8) : Server (List Rand) :=
  after sampleGcm sampleReader [sampleRand 9] ((sampleSecret kid).take 3)

def sampleFetch (kid : UInt8) : Exchange :=
  exchange sampleGcm sampleReader (sampleSecretArmed kid) 20 0x20200000 [] 64

/-- The reply of the fetch. -/
def sampleReply (kid : UInt8) : List UInt8 :=
  match (sampleFetch kid).result with
  | .ok reply => reply
  | _ => []

/-- **A confidential value in clear.**  With the encrypt bit clear the reply carries
    the value itself, sealed in the authenticate-only mode. -/
theorem plain_reply :
    ((sampleReply 0x01).drop 12).take 4 = [1, 2, 3, 4] ∧
    ¬ Along (step sampleGcm sampleReader) (StepConfidential sampleGcm sampleReader)
      (boot [sampleRand 9]) (sampleSecret 0x01) := by
  refine ⟨by decide +kernel, ?_⟩
  rintro ⟨-, -, -, hfetch, -⟩
  have hfind : (sampleSecretArmed 0x01).sod.registry.find 0x20200000 =
      some (0, ⟨0x20200000, 0, 0x05, 4⟩) := by decide +kernel
  have hans : readAnswers 0 ((sampleSecretArmed 0x01).sod.readSlot 0)
      ⟨0x20200000, 0, 0x05, 4⟩ [] = true := by decide +kernel
  have hok : (sampleFetch 0x01).result = .ok (sampleReply 0x01) := by decide +kernel
  obtain ⟨call, plain, cipher, tag, hone, -, henc, -⟩ :=
    hfetch 0 _ hfind (by decide) (by decide) hans _ hok
  have hclear : (delivered (sampleSecretArmed 0x01).history (sampleFetch 0x01)).all
      (fun q => !keyidEncrypt q.call.keyId) = true := by decide +kernel
  have hone' : delivered (sampleSecretArmed 0x01).history (sampleFetch 0x01) =
    [⟨call, plain, some (cipher, tag)⟩] := hone
  rw [hone'] at hclear
  simp [henc] at hclear

end SofaConfidential
