import Sofa.Writes

/-! # No unauthenticated write

    The headline, `writes_authenticated`: in every run that registers each data
    id once, every call of `write_after` directly follows the verification of
    its payload, under an installed key that the entry accepts and the host
    allows to write, in an AEAD call that names this device, the client the
    slot's challenge went to, the data id and a write direction. -/

namespace SofaWriteSafety

open ByteBlock SofaConfig SofaAead SofaOd SofaMoves SofaServer SofaWrites Machine

variable {H : Type} {gcm : Gcm} {P : Ports H}

/-! ## Who armed a slot -/

/-- The client of the last challenge issued for a data id. -/
def armer (history : List Exchange) (d : UInt32) : Option UInt16 :=
  (history.reverse.find? fun x => x.dataId == d && issued x).map (·.client)

theorem armer_append (h : List Exchange) (x : Exchange) (d : UInt32) :
    armer (h ++ [x]) d = if x.dataId = d ∧ issued x = true then some x.client else armer h d := by
  unfold armer
  rw [List.reverse_append, List.reverse_singleton, List.singleton_append, List.find?_cons]
  by_cases hx : x.dataId = d ∧ issued x = true
  · simp [hx]
  · rw [if_neg hx]
    split
    · rename_i htrue
      simp only [Bool.and_eq_true, beq_iff_eq] at htrue
      exact absurd htrue hx
    · rfl

/-! ## The law -/

/-- What must hold at a call of `write_after`, given the calls made before it in
    the same dispatch. -/
structure Authenticated (gcm : Gcm) (P : Ports H) (s : Server H) (d : UInt32)
    (pre : List Event) (src : List UInt8) (entry : SodEntry) (call : AeadCall)
    (cipher : List UInt8) (tag : Tag) : Prop where
  verified : ∃ pre', pre = pre' ++ [.aeadOpen call cipher tag (some src)] ∧
    Event.roleAllowed .write (keyidBase call.keyId) d true ∈ pre'
  opened : aeadOpen gcm call cipher tag = some src
  installed : s.sod.keys.getKey (keyidBase call.keyId) = some call.key
  binding : entry.acceptsKey (keyidBase call.keyId) = true
  device : call.serverDev = P.deviceId
  client : armer s.history d = some call.clientDev
  dataId : call.dataId = d
  direction : call.direction = dirWriteRequest ∨ call.direction = dirWritePollRequest
  payload : src.length = entry.dataLen

/-- The law of one step: every call of `write_after` is for the requested data id
    and is authenticated. -/
def StepSafe (gcm : Gcm) (P : Ports H) (s : Server H) : Input H → Prop
  | .request client d req replyMax => ∀ pre d' src kid rc post,
      (exchange gcm P s client d req replyMax).calls = pre ++ .writeAfter d' src kid rc :: post →
      d' = d ∧ ∃ idx entry call cipher tag, s.sod.registry.find d = some (idx, entry) ∧
        Authenticated gcm P s d pre src entry call cipher tag
  | _ => True

/-! ## The invariant -/

/-- A write slot in use belongs to an entry, was armed by the client it names, and
    if it is cyclic its key id is one the entry accepts. -/
def SlotsOwned (s : Server H) : Prop :=
  ∀ i, (s.sod.writeSlot i).inUse = true → ∃ d e, s.sod.registry.find d = some (i, e) ∧
    armer s.history d = some (s.sod.writeSlot i).clientDev ∧
    ((s.sod.writeSlot i).cyclic = true →
      e.acceptsKey (keyidBase (s.sod.writeSlot i).keyId) = true)

/-- **One request keeps the slots owned.** -/
theorem slotsOwned_request {s : Server H} {client : UInt16} {d : UInt32} {req : List UInt8}
    {replyMax : Nat} (hI : SlotsOwned s) :
    SlotsOwned (step gcm P s (.request client d req replyMax)) := by
  rcases request_cases gcm P s client d req replyMax with ⟨hnone, -, hstep⟩ |
    ⟨idx, entry, log, r, s', host, hf, hmove, hx, hstep⟩
  · rw [hstep]
    intro i hi
    obtain ⟨d', e, hf', harm, hbind⟩ := hI i hi
    exact ⟨d', e, hf', by simpa [armer_append, issued] using harm, hbind⟩
  · rw [hstep]
    intro i hi
    have hreg := Move.registry hmove
    by_cases hidx : i = idx
    · subst hidx
      simp only at hi ⊢
      rw [hreg]
      refine ⟨d, entry, hf, ?_⟩
      have heff := write_effect d hmove
      -- a slot that was live before belongs to this entry
      have hold : (s.sod.writeSlot i).inUse = true →
          armer s.history d = some (s.sod.writeSlot i).clientDev ∧
          ((s.sod.writeSlot i).cyclic = true →
            entry.acceptsKey (keyidBase (s.sod.writeSlot i).keyId) = true) := by
        intro huse
        obtain ⟨d', e, hf', harm, hbind⟩ := hI i huse
        obtain rfl := find_index hf' hf
        rw [hf] at hf'
        cases hf'
        exact ⟨harm, hbind⟩
      have hsilent : ∀ {x : Exchange}, issued x = false →
          armer (s.history ++ [x]) d = armer s.history d := by
        intro x hx
        simp [armer_append, hx]
      generalize s'.writeSlot i = slot at heff hi ⊢
      cases heff with
      | untouched frames silent =>
          rw [hsilent silent]
          exact hold hi
      | dropped frames silent down =>
          rw [down] at hi
          cases hi
      | @armed wire sr now frames handed random binding =>
          refine ⟨by simp [armer_append, handed, armedWriteSlot], fun hcyc => ?_⟩
          obtain ⟨kid, hkid⟩ := Option.isSome_iff_exists.mp hcyc
          have hslot : (armedWriteSlot client wire sr now).keyId = kid := by
            simp [armedWriteSlot, hkid]
          rw [hslot]
          exact binding kid hkid
      | consumed checked frames silent down =>
          rw [down] at hi
          cases hi
      | opened checked frames silent cyclic =>
          rw [hsilent silent]
          exact ⟨(hold checked.inUse).1, fun _ => checked.binding⟩
      | pollRefused checked frames silent hook refusal =>
          rw [hsilent silent]
          exact hold hi
      | polled checked frames silent =>
          rw [hsilent silent]
          exact hold checked.inUse
    · have hsame := Move.writeSlot_of_ne hmove hidx
      simp only [hsame] at hi ⊢
      obtain ⟨d', e, hf', harm, hbind⟩ := hI i hi
      have hd : ¬ (d = d' ∧ issued ⟨client, d, req, r, log⟩ = true) := by
        rintro ⟨rfl, -⟩
        rw [hf] at hf'
        cases hf'
        exact hidx rfl
      refine ⟨d', e, by rw [hreg]; exact hf', ?_, hbind⟩
      rw [armer_append, if_neg hd]
      exact harm

theorem slotsOwned_step (s : Server H) (a : Input H) (hI : SlotsOwned s) (ha : RegistersOnce s a) :
    SlotsOwned (step gcm P s a) := by
  refine step_invariant (C := RegistersOnce)
    (fun s client d req replyMax hI _ => slotsOwned_request hI) ?_ s a hI ha
  intro s a hI ha hkept i hi
  rw [hkept.writeSlot] at hi ⊢
  obtain ⟨d, e, hf, harm, hbind⟩ := hI i hi
  exact ⟨d, e, step_lookup gcm P s ha hf, by rw [hkept.history]; exact harm, hbind⟩

/-! ## Every write is authenticated -/

/-- The frame of an applied write carries the slot's owner and the entry's data,
    whichever path applied it. -/
theorem stepSafe_of_owned (s : Server H) (a : Input H) (hI : SlotsOwned s) :
    StepSafe gcm P s a := by
  cases a with
  | request client d req replyMax =>
      intro pre d' src kid rc post hcalls
      rcases request_cases gcm P s client d req replyMax with ⟨-, hx, -⟩ |
        ⟨idx, entry, log, r, s', host, hf, hmove, hx, -⟩
      · simp [hx] at hcalls
      · rw [hx] at hcalls
        simp only at hcalls
        rcases apply_cases hmove with ⟨hno, -⟩ | ⟨f, plain, kid', rc', happ⟩
        · exact absurd (hno (.writeAfter d' src kid rc) (by simp [hcalls])) (by simp [isWriteAfter])
        · obtain ⟨now, rfl, rfl, rfl, -, -⟩ := happ.split hcalls
          have hd := find_dataId hf
          refine ⟨hd, idx, entry, f.call, f.cipher, f.tag, hf, ?_⟩
          have hverified : ∃ pre', [.time now,
              .roleAllowed .write (keyidBase f.call.keyId) entry.dataId true,
              .aeadOpen f.call f.cipher f.tag (some src)] =
                pre' ++ [.aeadOpen f.call f.cipher f.tag (some src)] ∧
              Event.roleAllowed .write (keyidBase f.call.keyId) d true ∈ pre' :=
            ⟨[_, _], rfl, by simp [hd]⟩
          have hlen := length_aeadOpen happ.opened
          have howner : (s.sod.writeSlot idx).inUse = true →
              armer s.history d = some (s.sod.writeSlot idx).clientDev ∧
              ((s.sod.writeSlot idx).cyclic = true →
                entry.acceptsKey (keyidBase (s.sod.writeSlot idx).keyId) = true) := by
            intro huse
            obtain ⟨d', e, hf', harm, hbind⟩ := hI idx huse
            obtain rfl := find_index hf' hf
            rw [hf] at hf'
            cases hf'
            exact ⟨harm, hbind⟩
          rcases happ.frame with ⟨t, key, hchecked, rfl, -⟩ | ⟨t, key, hchecked, rfl, -⟩
          · have hcut : src.length = entry.dataLen := by
              rw [hlen]
              have := hchecked.len
              simp only [pass2Frame, pass2Cipher, List.length_take, List.length_drop]
              unfold pass2Len at this
              omega
            exact ⟨hverified, happ.opened, happ.installed, hchecked.binding, rfl,
              (howner hchecked.inUse).1, hd, .inl rfl, hcut⟩
          · have hcut : src.length = entry.dataLen := by
              rw [hlen]
              have := hchecked.len
              simp only [writePollFrame, writePollCipher, List.length_take, List.length_drop]
              unfold pollLen at this
              omega
            exact ⟨hverified, happ.opened, happ.installed,
              (howner hchecked.inUse).2 hchecked.cyclic, rfl, (howner hchecked.inUse).1, hd,
              .inr rfl, hcut⟩
  | registerEntry | setKeyEx | clearKeys | application => trivial

/-- **No unauthenticated write.**  In every run of the server that registers each
    data id once, each call of `write_after` is authenticated. -/
theorem writes_authenticated (gcm : Gcm) (P : Ports H) (host : H) (inputs : List (Input H))
    (hreg : Along (step gcm P) RegistersOnce (boot host) inputs) :
    Along (step gcm P) (StepSafe gcm P) (boot host) inputs :=
  along_imp slotsOwned_step (fun s a hI _ => stepSafe_of_owned s a hI)
    (fun i hi => by simp [boot, sodInit] at hi) hreg

/-- The law on a session that is opened and polled once: two writes are applied,
    both authenticated. -/
theorem sampleSession_authenticated :
    (applied (after sampleGcm (samplePorts fun _ => []) [sampleRand 9]
      sampleSession).history).length = 2 ∧
    Along (step sampleGcm (samplePorts fun _ => []))
      (StepSafe sampleGcm (samplePorts fun _ => [])) (boot [sampleRand 9]) sampleSession :=
  ⟨by decide +kernel, writes_authenticated _ _ _ _ (by decide +kernel)⟩

end SofaWriteSafety
