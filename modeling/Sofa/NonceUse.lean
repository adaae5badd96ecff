import Sofa.Reads
import Sofa.Writes
import Sofa.Lib.Ledger

/-! # The nonces of the server

    Every seal of the server is booked in a ledger of read sessions: an arming
    opens a session with the XOR of the two randoms as its base, a poll continues
    it with the base XOR the counter.  The headline, `nonces_unique`: when the
    windows of bases under one key do not meet, no nonce serves two seals under
    that key.

    Randoms that do not repeat are not enough: `nonce_reused` is a run with one
    client random and two different server randoms in which a poll of the first
    session and the arming of the second share their nonce. -/

namespace SofaNonceUse

open ByteBlock SofaConfig SofaAead SofaOd SofaMoves SofaServer SofaReads SofaWrites Ledger
  Machine

variable {H : Type} {gcm : Gcm} {P : Ports H}

/-! ## The property -/

/-- No two seals under one key share a nonce and differ in plaintext or AAD. -/
def NonceUnique (history : List Exchange) : Prop :=
  (sealed history).Pairwise fun p q => p.call.key = q.call.key → p.call.nonce = q.call.nonce →
    p.plain = q.plain ∧ p.call.aad p.plain = q.call.aad q.plain

instance (history : List Exchange) : Decidable (NonceUnique history) :=
  inferInstanceAs (Decidable ((sealed history).Pairwise _))

/-! ## The ledger of seals -/

/-- What a seal does to the read session of its data id: the seal of an arming
    binds both randoms and opens one, the seal of a poll binds none. -/
def sealAct (q : Sealing) : Act Nonce Sealing :=
  match q.call.randoms with
  | some (clientRandom, serverRandom) => .opened (aeadXorNonce clientRandom serverRandom) q
  | none => .continued q

/-- What an exchange does to the read sessions. -/
def readActs (x : Exchange) : List (UInt32 × Act Nonce Sealing) :=
  (sealings x.calls).map fun q => (x.dataId, sealAct q)

/-- The ledger of a history. -/
def readBook (history : List Exchange) : Book UInt32 Nonce Sealing :=
  ledger (history.flatMap readActs)

theorem readBook_append (h : List Exchange) (x : Exchange) :
    readBook (h ++ [x]) = (readActs x).foldl (fun b a => b.record a.1 a.2) (readBook h) := by
  simp [readBook, ledger_append]

theorem readBook_silent {h : List Exchange} {x : Exchange} (hx : sealings x.calls = []) :
    readBook (h ++ [x]) = readBook h := by
  simp [readBook_append, readActs, hx]

theorem readBook_single {h : List Exchange} {x : Exchange} {q : Sealing}
    (hx : sealings x.calls = [q]) :
    readBook (h ++ [x]) = (readBook h).record x.dataId (sealAct q) := by
  simp [readBook_append, readActs, hx]

/-! ## The condition -/

/-- The counters a session can reach: a single-shot read seals once. -/
def window (kid : UInt8) : Nat := if keyidIsCyclic kid then keyUseLimit else 0

/-- Two sessions that seal under one key never reach one nonce. -/
def WindowsApart (history : List Exchange) : Prop :=
  ∀ u ∈ (readBook history).uses, ∀ v ∈ (readBook history).uses, u.session ≠ v.session →
    u.item.call.key = v.item.call.key →
    ∀ c c', c ≤ window u.item.call.keyId → c' ≤ window v.item.call.keyId →
      buildSessionNonce u.base c ≠ buildSessionNonce v.base c'

/-! ## The invariant -/

/-- What the ledger says about a use: the nonce is the base XOR the counter, and
    the counter is within the window of the key id. -/
structure UseShape (u : Use Nonce Sealing) : Prop where
  nonce : u.item.call.nonce = buildSessionNonce u.base u.counter
  bounded : u.counter ≤ window u.item.call.keyId

/-- The read slots, the ledger and the seals agree. -/
structure Booked (s : Server H) : Prop where
  complete : (readBook s.history).uses.map (·.item) = sealed s.history
  shape : ∀ u ∈ (readBook s.history).uses, UseShape u
  slot : ∀ i, (s.sod.readSlot i).inUse = true → (s.sod.readSlot i).cyclic = true →
    keyidIsCyclic (s.sod.readSlot i).keyId = true ∧
    ∃ d e u, s.sod.registry.find d = some (i, e) ∧ (readBook s.history).live d = some u ∧
      u.base = (s.sod.readSlot i).nonceBase ∧ u.counter = (s.sod.readSlot i).counter

theorem Booked.start (host : H) : Booked (boot host) where
  complete := rfl
  shape := by simp [boot, readBook, Book.empty]
  slot := by simp [boot, sodInit]

theorem window_le (kid : UInt8) : window kid ≤ keyUseLimit := by
  unfold window
  split
  · exact Nat.le_refl _
  · exact Nat.zero_le _

/-- A use appended to the ledger keeps it complete and well shaped. -/
theorem booked_push {uses : List (Use Nonce Sealing)} {seals : List Sealing}
    {u : Use Nonce Sealing} (hc : uses.map (·.item) = seals) (hs : ∀ v ∈ uses, UseShape v)
    (hu : UseShape u) :
    (uses ++ [u]).map (·.item) = seals ++ [u.item] ∧ ∀ v ∈ uses ++ [u], UseShape v := by
  refine ⟨by simp [hc], fun v hv => ?_⟩
  rcases List.mem_append.mp hv with hv | hv
  · exact hs v hv
  · rw [List.mem_singleton.mp hv]
    exact hu

/-- An exchange without a seal keeps the ledger when the slot it leaves is not in
    use, or belongs to the same session as before. -/
theorem Booked.silent {s : Server H} {s' : Sod} {host : H} {x : Exchange}
    (idx : Fin sodMaxEntries) (h : Booked s) (hreg : s'.registry = s.sod.registry)
    (hother : ∀ i, i ≠ idx → s'.readSlot i = s.sod.readSlot i)
    (hx : sealings x.calls = [])
    (hslot : (s'.readSlot idx).inUse = true →
      (s.sod.readSlot idx).inUse = true ∧
      (s'.readSlot idx).cyclic = (s.sod.readSlot idx).cyclic ∧
      (s'.readSlot idx).keyId = (s.sod.readSlot idx).keyId ∧
      (s'.readSlot idx).nonceBase = (s.sod.readSlot idx).nonceBase ∧
      (s'.readSlot idx).counter = (s.sod.readSlot idx).counter) :
    Booked ⟨s', host, s.history ++ [x]⟩ := by
  have hbook : readBook (s.history ++ [x]) = readBook s.history := readBook_silent hx
  refine ⟨?_, ?_, ?_⟩
  · simpa [hbook, sealed_append, hx] using h.complete
  · simpa [hbook] using h.shape
  · intro i hi hc
    simp only [hbook, hreg] at hi hc ⊢
    by_cases hidx : i = idx
    · subst hidx
      obtain ⟨hi', hc', hk', hb', hn'⟩ := hslot hi
      rw [hc'] at hc
      rw [hk', hb', hn']
      exact h.slot i hi' hc
    · rw [hother i hidx] at hi hc ⊢
      exact h.slot i hi hc

/-- An exchange with one seal keeps the ledger when the seal is booked as a use of
    the right shape, and the slot it leaves agrees with that use. -/
theorem Booked.used {s : Server H} {s' : Sod} {host : H} {x : Exchange}
    {idx : Fin sodMaxEntries} {entry : SodEntry} {q : Sealing} {u : Use Nonce Sealing}
    (h : Booked s) (hf : s.sod.registry.find x.dataId = some (idx, entry))
    (hreg : s'.registry = s.sod.registry)
    (hother : ∀ i, i ≠ idx → s'.readSlot i = s.sod.readSlot i)
    (hx : sealings x.calls = [q])
    (hlive : ((readBook s.history).record x.dataId (sealAct q)).live x.dataId = some u)
    (huses : ((readBook s.history).record x.dataId (sealAct q)).uses =
      (readBook s.history).uses ++ [u])
    (hitem : u.item = q) (hshape : UseShape u)
    (hslot : (s'.readSlot idx).cyclic = true →
      keyidIsCyclic (s'.readSlot idx).keyId = true ∧
      u.base = (s'.readSlot idx).nonceBase ∧ u.counter = (s'.readSlot idx).counter) :
    Booked ⟨s', host, s.history ++ [x]⟩ := by
  have hbook := readBook_single (h := s.history) hx
  obtain ⟨hcomplete, hshapes⟩ := booked_push h.complete h.shape hshape
  refine ⟨?_, ?_, ?_⟩
  · rw [hbook, huses, sealed_append, hx, hcomplete, hitem]
  · rw [hbook, huses]
    exact hshapes
  · intro i hi hc
    simp only [hbook, hreg] at hi hc ⊢
    by_cases hidx : i = idx
    · subst hidx
      obtain ⟨hk, hb, hn⟩ := hslot hc
      exact ⟨hk, x.dataId, entry, u, hf, hlive, hb, hn⟩
    · rw [hother i hidx] at hi hc ⊢
      obtain ⟨hk, d, e, v, hf', hv, hagree⟩ := h.slot i hi hc
      have hd : d ≠ x.dataId := by
        rintro rfl
        rw [hf] at hf'
        cases hf'
        exact hidx rfl
      exact ⟨hk, d, e, v, hf', by rw [live_of_ne _ _ hd]; exact hv, hagree⟩

/-- **One request keeps the ledger.** -/
theorem booked_request (hg : gcm.Correct) {s : Server H} {client : UInt16} {d : UInt32}
    {req : List UInt8} {replyMax : Nat} (h : Booked s) :
    Booked (step gcm P s (.request client d req replyMax)) := by
  rcases request_cases gcm P s client d req replyMax with ⟨-, -, hstep⟩ |
    ⟨idx, entry, log, r, s', host, hf, hmove, -, hstep⟩
  · rw [hstep]
    exact h.silent 0 rfl (fun _ _ => rfl) rfl (fun hi => ⟨hi, rfl, rfl, rfl, rfl⟩)
  · rw [hstep]
    have hreg := Move.registry hmove
    have hother := fun i => Move.readSlot_of_ne hmove (j := i)
    -- a seal of the entry's data does not fail
    have hseal : ∀ {call : AeadCall} {plain : List UInt8}, plain.length = entry.dataLen →
        aeadSeal gcm call plain ≠ none := by
      intro call plain hplain hnone
      have hfits := s.sod.registry.protected_le entry (find_mem hf)
      obtain ⟨cipher, tag, hsome⟩ := aeadSeal_isSome hg call (p := plain) (by omega)
      rw [hnone] at hsome
      cases hsome
    generalize hslot' : s'.readSlot idx = slot' at *
    have heff := read_effect d hmove
    rw [hslot'] at heff
    cases heff with
    | untouched seals notDeferred silent =>
        exact h.silent idx hreg hother seals (by simp [hslot'])
    | dropped seals aborted down =>
        exact h.silent idx hreg hother seals (by simp [hslot', down])
    | armFailed checked seals aborted failed => exact absurd failed (hseal checked.full)
    | @armed pre key plain cipher sr tag now checked seals deferred =>
        refine h.used hf hreg hother seals (live_opened _ _ _ _) (uses_opened _ _ _ _) rfl
          ⟨?_, ?_⟩ ?_
        · simp [readArmCall, serverCall]
        · exact Nat.zero_le _
        · rw [hslot']
          intro hc
          have hkid : keyidIsCyclic (reqHead req) = true := hc
          simp [armedReadSlot, hkid]
    | fetchedOnce seals empty inUse ready delivered =>
        exact h.silent idx hreg hother seals (by simp [hslot'])
    | fetchedCyclic seals empty inUse ready delivered =>
        exact h.silent idx hreg hother seals (by simp [hslot'])
    | pollFailed checked seals aborted failed => exact absurd failed (hseal checked.full)
    | @polled now now' key plain cipher tag checked seals delivered =>
        obtain ⟨hk, d', e, u, hf', hlive, hbase, hcounter⟩ :=
          h.slot idx checked.inUse checked.cyclic
        obtain rfl : d' = d := find_index hf' hf
        refine h.used hf hreg hother seals (live_continued hlive _) (uses_continued hlive _) rfl
          ⟨?_, ?_⟩ ?_
        · simp [readPollCall, serverCall, hbase, hcounter]
        · have hbudget := checked.budget
          simp only [readPollCall, serverCall, window, hk, if_true, hcounter]
          omega
        · rw [hslot']
          intro _
          exact ⟨hk, hbase, by simp [hcounter]⟩

/-- The ledger is kept in every run. -/
theorem booked_run (hg : gcm.Correct) (host : H) (inputs : List (Input H)) :
    Booked (after gcm P host inputs) := by
  refine server_induction (C := fun _ _ => True) (Booked.start host) ?_ ?_ 
    (along_of_forall (fun _ _ => trivial) _ _)
  · intro s client d req replyMax h _
    exact booked_request hg h
  · intro s a h _ hkept
    refine ⟨?_, ?_, ?_⟩
    · rw [hkept.history]
      exact h.complete
    · rw [hkept.history]
      exact h.shape
    · rw [hkept.history, hkept.readSlot]
      intro i hi hc
      obtain ⟨hk, d, e, u, hf, hlive, hagree⟩ := h.slot i hi hc
      obtain ⟨e', hf'⟩ := hkept.lookup d i e hf
      exact ⟨hk, d, e', u, hf', hlive, hagree⟩

/-! ## The headline -/

/-- **No nonce twice.**  When the windows of the sessions under one key do not
    meet, no two seals of the run share key and nonce. -/
theorem nonces_apart (hg : gcm.Correct) (host : H) (inputs : List (Input H))
    (hapart : WindowsApart (after gcm P host inputs).history) :
    (sealed (after gcm P host inputs).history).Pairwise fun p q =>
      p.call.key = q.call.key → p.call.nonce ≠ q.call.nonce := by
  have hb := booked_run (P := P) hg host inputs
  have hwithin := nonces_distinct buildSessionNonce_inj _
    (fun u hu => (hb.shape u hu).bounded.trans (window_le _))
  rw [← hb.complete, List.pairwise_map]
  refine hwithin.imp_of_mem ?_
  intro u v hu hv hwithin hkey
  rw [(hb.shape u hu).nonce, (hb.shape v hv).nonce]
  by_cases hsame : u.session = v.session
  · exact hwithin hsame
  · exact hapart u hu v hv hsame hkey _ _ (hb.shape u hu).bounded (hb.shape v hv).bounded

/-- **Nonce uniqueness of the server**, when the windows of the sessions under one
    key do not meet. -/
theorem nonces_unique (hg : gcm.Correct) (P : Ports H) (host : H) (inputs : List (Input H))
    (hapart : WindowsApart (after gcm P host inputs).history) :
    NonceUnique (after gcm P host inputs).history := by
  refine (nonces_apart hg host inputs hapart).imp ?_
  intro p q hne hkey hnonce
  exact absurd hnonce (hne hkey)

/-! ## Worked runs -/

/-- A cyclic read is armed, fetched and polled once; then a single-shot read is
    armed.  The client uses one random throughout. -/
def sampleTwoReads : List (Input (List Rand)) :=
  [.registerEntry ⟨0x20200000, 0, 0x01, 4⟩, .setKeyEx 1 sampleKey 1,
    .request 20 0x20200000 (0x41 :: toList (sampleRand 5)) 64, .request 20 0x20200000 [] 64,
    .request 20 0x20200000 [1] 64,
    .request 20 0x20200000 (0x01 :: toList (sampleRand 5)) 64]

/-- `nonces_unique` on a worked run: the session is armed and polled. -/
theorem sampleReads_unique :
    (sealed (after sampleGcm sampleReader [sampleRand 9] (sampleTwoReads.take 5)).history).length = 2
      ∧ NonceUnique (after sampleGcm sampleReader [sampleRand 9] (sampleTwoReads.take 5)).history := by
  refine ⟨by decide +kernel, nonces_unique sampleGcm_correct _ _ _ ?_⟩
  have hone : ∀ u ∈ (readBook (after sampleGcm sampleReader [sampleRand 9]
      (sampleTwoReads.take 5)).history).uses, u.session = 0 := by decide +kernel
  intro u hu v hv hne
  exact absurd ((hone u hu).trans (hone v hv).symm) hne

/-- **A reused nonce.**  Two server randoms that differ in the last bit: the poll of
    the first session and the arming of the second read share key and nonce. -/
theorem nonce_reused :
    (randoms (after sampleGcm sampleReader [sampleRand 9, xor (sampleRand 9) (mask32 8 1)]
        sampleTwoReads).history).Nodup ∧
      ¬ NonceUnique (after sampleGcm sampleReader [sampleRand 9, xor (sampleRand 9) (mask32 8 1)]
        sampleTwoReads).history := by
  decide +kernel

end SofaNonceUse
