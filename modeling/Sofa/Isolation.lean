import Sofa.Reads

/-! # Isolation of clients

    A slot that one client armed and that is still fresh should be out of reach
    of every other client.  The arming paths and the polls check the client; the
    fetch of a prepared read and the Pass-2 path do not.

    The headline, `isolated_iff`: a run isolates its clients at every step if
    and only if no step is a foreign fetch of a fresh prepared read or a foreign
    data-bearing frame on a fresh write slot.  `foreign_frame` is a run in which
    another client's two bytes tear a write down. -/

namespace SofaIsolation

open ByteBlock SofaConfig SofaAead SofaOd SofaMoves SofaServer SofaReads StateWp Machine

variable {H : Type} {gcm : Gcm} {P : Ports H}

/-! ## Foreign slots -/

/-- Every clock reading of a dispatch finds the slot within its window. -/
def FreshThrough (calls : List Event) (cyclic : Bool) (armedAt : UInt16) : Prop :=
  ∀ now, Event.time now ∈ calls → ageWithin now armedAt (heldTimeout cyclic) = true

instance (calls : List Event) (cyclic : Bool) (armedAt : UInt16) :
    Decidable (FreshThrough calls cyclic armedAt) :=
  decidable_of_iff ((calls.all fun
      | .time now => ageWithin now armedAt (heldTimeout cyclic)
      | _ => true) = true) <| by
    rw [List.all_eq_true]
    constructor
    · intro h now hmem
      exact h _ hmem
    · intro h e he
      cases e with
      | time now => exact h now he
      | _ => rfl

/-- Another client armed the read slot, and it is still fresh. -/
structure ForeignRead (calls : List Event) (client : UInt16) (slot : ReadSlot) : Prop where
  inUse : slot.inUse = true
  owner : slot.clientDev ≠ client
  fresh : FreshThrough calls slot.cyclic slot.armedAt

/-- Another client armed the write slot, and it is still fresh. -/
structure ForeignWrite (calls : List Event) (client : UInt16) (slot : WriteSlot) : Prop where
  inUse : slot.inUse = true
  owner : slot.clientDev ≠ client
  fresh : FreshThrough calls slot.cyclic slot.armedAt

/-! ## The law -/

/-- A foreign slot is left as it was; a request that is for it is refused.  A
    request is for the read slot when the read side answers it, and otherwise,
    on a SECURE_WO entry, for the write slot. -/
structure Isolated (arrival client : UInt16) (d : UInt32) (req : List UInt8) (s s' : Sod)
    (calls : List Event) (r : SodResult) : Prop where
  read : ∀ i, ForeignRead calls client (s.readSlot i) → s'.readSlot i = s.readSlot i ∧
    ∀ entry, s.registry.find d = some (i, entry) →
      readAnswers arrival (s.readSlot i) entry req = true → ∃ code, r = .abort code
  write : ∀ i, ForeignWrite calls client (s.writeSlot i) → s'.writeSlot i = s.writeSlot i ∧
    ∀ entry, s.registry.find d = some (i, entry) → entry.hasWo = true →
      readAnswers arrival (s.readSlot i) entry req = false → ∃ code, r = .abort code

/-- The law of one step; only requests come from clients. -/
def StepIsolated (gcm : Gcm) (P : Ports H) (s : Server H) : Input H → Prop
  | .request client d req replyMax =>
      Isolated (P.timeMs s.host).1 client d req s.sod
        (step gcm P s (.request client d req replyMax)).sod
        (exchange gcm P s client d req replyMax).calls
        (exchange gcm P s client d req replyMax).result
  | _ => True

/-! ## The condition -/

/-- The request fetches the prepared reply of a read. -/
def fetches (arrival : UInt16) (slot : ReadSlot) (entry : SodEntry) (req : List UInt8) : Prop :=
  entry.hasRo = true ∧ req = [] ∧ slot.prepared ≠ [] ∧
    ageWithin arrival slot.armedAt challengeTimeoutMs = true

/-- The request reaches the Pass-2 path: it carries data, and it is neither a read
    challenge nor a poll of a cyclic session. -/
def carriesData (slot : WriteSlot) (entry : SodEntry) (req : List UInt8) : Prop :=
  entry.hasWo = true ∧ 2 ≤ req.length ∧ (entry.hasRo = true → req.length ≠ readChallengeLen) ∧
    (req.length = pollLen entry → slot.cyclic = false)

/-- The step is no foreign fetch and no foreign data-bearing frame. -/
def NoForeignTouch (gcm : Gcm) (P : Ports H) (s : Server H) : Input H → Prop
  | .request client d req replyMax => ∀ idx entry, s.sod.registry.find d = some (idx, entry) →
      (ForeignRead (exchange gcm P s client d req replyMax).calls client (s.sod.readSlot idx) →
        ¬ fetches (P.timeMs s.host).1 (s.sod.readSlot idx) entry req) ∧
      (ForeignWrite (exchange gcm P s client d req replyMax).calls client (s.sod.writeSlot idx) →
        ¬ carriesData (s.sod.writeSlot idx) entry req)
  | _ => True

/-! ## The condition is enough -/

section Enough

variable {client arrival : UInt16} {req : List UInt8} {s s' : Sod} {idx : Fin sodMaxEntries}
  {entry : SodEntry} {log : List Event} {r : SodResult}

/-- A fresh foreign slot does not pass the arming guard. -/
theorem not_armGuard {calls pre : List Event} {inUse cyclic : Bool} {owner armedAt : UInt16}
    (hu : inUse = true) (hne : owner ≠ client) (hfresh : FreshThrough calls cyclic armedAt)
    (hsub : ∀ e ∈ pre, e ∈ calls) : ¬ ArmGuard inUse cyclic owner armedAt client pre := by
  intro hguard
  obtain ⟨now, hmem, hstale⟩ := hguard hu hne
  rw [hfresh now (hsub _ hmem)] at hstale
  cases hstale

/-- A move that is not a fetch leaves a foreign read alone. -/
theorem read_isolated (h : Move gcm P client req arrival s idx entry log r s')
    (hf : ForeignRead log client (s.readSlot idx))
    (hno : ¬ fetches arrival (s.readSlot idx) entry req) :
    s'.readSlot idx = s.readSlot idx ∧
      (readAnswers arrival (s.readSlot idx) entry req = true → ∃ code, r = .abort code) := by
  cases h with
  | refused quiet => exact ⟨rfl, fun _ => ⟨_, rfl⟩⟩
  | readArmFailed checked sealed =>
      exact absurd checked.guard (not_armGuard hf.inUse hf.owner hf.fresh (by simp_all))
  | readArmed checked sealed =>
      exact absurd checked.guard (not_armGuard hf.inUse hf.owner hf.fresh (by simp_all))
  | fetchDropped ro empty inUse ready fresh => exact absurd ⟨ro, empty, ready, fresh⟩ hno
  | fetchedOnce ro empty inUse ready fresh single => exact absurd ⟨ro, empty, ready, fresh⟩ hno
  | fetchedCyclic ro empty inUse ready fresh cyclic => exact absurd ⟨ro, empty, ready, fresh⟩ hno
  | readLapsed ro len inUse cyclic owner why => exact absurd owner hf.owner
  | readPollFailed checked passive sealed => exact absurd checked.owner hf.owner
  | readPolled checked passive clock gate source sealed => exact absurd checked.owner hf.owner
  | writeArmed wo len idle kid binding passive passive' gate guard =>
      exact ⟨rfl, fun hans => by rw [idle] at hans; cases hans⟩
  | pass2Dropped wo inUse len idle notPoll passive => exact ⟨rfl, fun _ => ⟨_, rfl⟩⟩
  | pass2Forged checked opened => exact ⟨rfl, fun _ => ⟨_, rfl⟩⟩
  | pass2Refused checked opened hook refusal => exact ⟨rfl, fun _ => ⟨_, rfl⟩⟩
  | pass2Once checked opened hook single =>
      exact ⟨rfl, fun h => absurd h (not_readAnswers_of_long (pass2Len_long checked.len))⟩
  | pass2Cyclic checked opened hook cyclic =>
      exact ⟨rfl, fun h => absurd h (not_readAnswers_of_long (pass2Len_long checked.len))⟩
  | writeLapsed wo len inUse cyclic owner why => exact ⟨rfl, fun _ => ⟨_, rfl⟩⟩
  | writePollForged checked opened => exact ⟨rfl, fun _ => ⟨_, rfl⟩⟩
  | writePollRefused checked opened hook refusal => exact ⟨rfl, fun _ => ⟨_, rfl⟩⟩
  | writePolled checked opened hook =>
      exact ⟨rfl, fun h => absurd h (not_readAnswers_of_long (pollLen_long checked.len))⟩

/-- A frame that reached the Pass-2 tag check carries data. -/
theorem Pass2Checked.carriesData {now : UInt16} {key : Key}
    (h : Pass2Checked P s idx entry req now key) :
    carriesData (s.writeSlot idx) entry req := by
  have hlimit : readChallengeLen = 13 := rfl
  have hlen := h.len
  rw [pass2Len_eq] at hlen
  refine ⟨h.wo, by omega, fun _ => by omega, fun hpoll => ?_⟩
  rw [pollLen_eq] at hpoll
  omega

/-- A move that carries no data leaves a foreign write alone. -/
theorem write_isolated (h : Move gcm P client req arrival s idx entry log r s')
    (hf : ForeignWrite log client (s.writeSlot idx))
    (hno : ¬ carriesData (s.writeSlot idx) entry req) :
    s'.writeSlot idx = s.writeSlot idx ∧
      (readAnswers arrival (s.readSlot idx) entry req = false → ∃ code, r = .abort code) := by
  cases h with
  | refused quiet => exact ⟨rfl, fun _ => ⟨_, rfl⟩⟩
  | readArmFailed checked sealed => exact ⟨rfl, fun _ => ⟨_, rfl⟩⟩
  | readArmed checked sealed =>
      exact ⟨rfl, fun hans => by simp [readAnswers, checked.ro, checked.len] at hans⟩
  | fetchDropped ro empty inUse ready fresh => exact ⟨rfl, fun _ => ⟨_, rfl⟩⟩
  | fetchedOnce ro empty inUse ready fresh single =>
      have hlen := List.length_pos_iff.mpr ready
      exact ⟨rfl, fun hans => by simp [readAnswers, ro, empty, inUse, fresh, hlen] at hans⟩
  | fetchedCyclic ro empty inUse ready fresh cyclic =>
      have hlen := List.length_pos_iff.mpr ready
      exact ⟨rfl, fun hans => by simp [readAnswers, ro, empty, inUse, fresh, hlen] at hans⟩
  | readLapsed ro len inUse cyclic owner why => exact ⟨rfl, fun _ => ⟨_, rfl⟩⟩
  | readPollFailed checked passive sealed => exact ⟨rfl, fun _ => ⟨_, rfl⟩⟩
  | readPolled checked passive clock gate source sealed =>
      refine ⟨rfl, fun hans => ?_⟩
      simp [readAnswers, checked.ro, checked.len, checked.inUse, checked.cyclic] at hans
  | writeArmed wo len idle kid binding passive passive' gate guard =>
      refine absurd guard (not_armGuard hf.inUse hf.owner hf.fresh ?_)
      intro e he
      exact List.mem_append_right _ (List.mem_cons_of_mem _ (List.mem_append_left _ he))
  | pass2Dropped wo inUse len idle notPoll passive =>
      refine absurd ⟨wo, len, fun hro hlen => ?_, notPoll⟩ hno
      simp [readAnswers, hro, hlen] at idle
  | pass2Forged checked opened => exact absurd (Pass2Checked.carriesData checked) hno
  | pass2Refused checked opened hook refusal =>
      exact absurd (Pass2Checked.carriesData checked) hno
  | pass2Once checked opened hook single => exact absurd (Pass2Checked.carriesData checked) hno
  | pass2Cyclic checked opened hook cyclic => exact absurd (Pass2Checked.carriesData checked) hno
  | writeLapsed wo len inUse cyclic owner why => exact absurd owner hf.owner
  | writePollForged checked opened => exact absurd checked.owner hf.owner
  | writePollRefused checked opened hook refusal => exact absurd checked.owner hf.owner
  | writePolled checked opened hook => exact absurd checked.owner hf.owner

end Enough

theorem isolated_of_noTouch (s : Server H) (a : Input H) (h : NoForeignTouch gcm P s a) :
    StepIsolated gcm P s a := by
  cases a with
  | request client d req replyMax =>
      rcases request_cases gcm P s client d req replyMax with ⟨hnone, hx, hstep⟩ |
        ⟨idx, entry, log, r, s', host, hf, hmove, hx, hstep⟩
      · simp only [StepIsolated, hstep, hx]
        exact ⟨fun i _ => ⟨rfl, fun entry hf => by rw [hnone] at hf; cases hf⟩,
          fun i _ => ⟨rfl, fun entry hf => by rw [hnone] at hf; cases hf⟩⟩
      · obtain ⟨hread, hwrite⟩ := h idx entry hf
        simp only [hx] at hread hwrite
        simp only [StepIsolated, hstep, hx]
        constructor
        · intro i hi
          by_cases hidx : i = idx
          · subst hidx
            obtain ⟨hsame, habort⟩ := read_isolated hmove hi (hread hi)
            refine ⟨hsame, fun e he => ?_⟩
            rw [hf] at he
            cases he
            exact habort
          · refine ⟨Move.readSlot_of_ne hmove hidx, fun e he => ?_⟩
            rw [hf] at he
            cases he
            exact absurd rfl hidx
        · intro i hi
          by_cases hidx : i = idx
          · subst hidx
            obtain ⟨hsame, habort⟩ := write_isolated hmove hi (hwrite hi)
            refine ⟨hsame, fun e he _ => ?_⟩
            rw [hf] at he
            cases he
            exact habort
          · refine ⟨Move.writeSlot_of_ne hmove hidx, fun e he => ?_⟩
            rw [hf] at he
            cases he
            exact absurd rfl hidx
  | registerEntry | setKeyEx | clearKeys | application => trivial

/-! ## The condition is needed -/

section Needed

variable {w : World H} {client : UInt16} {d : UInt32} {req : List UInt8} {replyMax : Nat}
  {idx : Fin sodMaxEntries} {entry : SodEntry}

/-- A fetch of a fresh prepared reply changes the slot, whoever sends it. -/
theorem fetch_touches (hf : w.sod.registry.find d = some (idx, entry))
    (huse : (w.sod.readSlot idx).inUse = true)
    (h : fetches (P.timeMs w.host).1 (w.sod.readSlot idx) entry req) :
    wp (sodDispatch gcm P client d req replyMax)
      (fun _ w' => w'.sod.readSlot idx ≠ w.sod.readSlot idx) w := by
  obtain ⟨hro, rfl, hready, hfresh⟩ := h
  have hlen : (w.sod.readSlot idx).prepared.length > 0 := List.length_pos_iff.mpr hready
  have hdown : ∀ slot : ReadSlot, slot.inUse = false → slot ≠ w.sod.readSlot idx := by
    rintro slot hs rfl
    rw [huse] at hs
    cases hs
  rw [wp_sodDispatch hf, if_neg (by simp), if_neg (by simp [pollLen_eq])]
  unfold dispatchRead fetchReadResponse
  simp only [hro, if_true, List.length_nil, beq_self_eq_true]
  rw [if_neg (by decide)]
  simp only [wp_bind, wp_getReadSlot, huse, hlen, decide_true, Bool.and_self, if_true,
    wp_slotIsFresh]
  intro now host hclock
  obtain rfl : (P.timeMs w.host).1 = now := congrArg (·.1) hclock
  rw [if_pos hfresh]
  simp only [wp_ite, wp_bind, wp_setReadSlot, wp_pure, wp_portTime]
  refine ⟨fun _ => ?_, fun _ => ⟨fun _ now' host' _ => ?_, fun _ => ?_⟩⟩
  · exact hdown _ (by simp)
  · simp only [Sod.readSlot_setRead]
    intro heq
    exact hready (congrArg ReadSlot.prepared heq).symm
  · exact hdown _ (by simp)

/-- A data-bearing frame on a write slot in use tears it down or is accepted,
    whoever sends it. -/
theorem frame_touches (hf : w.sod.registry.find d = some (idx, entry))
    (huse : (w.sod.writeSlot idx).inUse = true)
    (h : carriesData (w.sod.writeSlot idx) entry req) :
    wp (sodDispatch gcm P client d req replyMax)
      (fun r w' => (w'.sod.writeSlot idx).inUse = false ∨ ∃ reply, r = .ok reply) w := by
  obtain ⟨hwo, hlen, hread, hpoll⟩ := h
  have hone : req.length ≠ 1 := by omega
  have hzero : req.length ≠ 0 := by omega
  have hnotPoll : ¬ (entry.hasWo && req.length == pollLen entry && (w.sod.writeSlot idx).inUse
      && (w.sod.writeSlot idx).cyclic) = true := by
    intro hc
    simp only [Bool.and_eq_true, beq_iff_eq] at hc
    rw [hpoll hc.1.1.2] at hc
    cases hc.2
  rw [wp_sodDispatch hf, if_neg (by simp [hone]), if_neg hnotPoll]
  have hverify : wp (verifyAndApplyWrite gcm P idx entry req)
      (fun r w' => (w'.sod.writeSlot idx).inUse = false ∨ ∃ reply, r = .ok reply) w := by
    unfold verifyAndApplyWrite
    simp only [wp_bind, wp_getWriteSlot, huse, Bool.not_true, Bool.false_eq_true, if_false,
      wp_slotIsFresh]
    intro now host _
    simp only [wp_ite, wp_bind, wp_setWriteSlot, wp_pure, wp_getKey]
    refine ⟨fun _ => .inl (by simp), fun _ => ⟨fun _ => .inl (by simp), fun _ =>
      ⟨fun _ => .inl (by simp), fun _ => ⟨fun _ => .inl (by simp), fun _ => ?_⟩⟩⟩⟩
    cases w.sod.keys.getKey (keyidBase (req.getD 0 0)) with
    | none =>
        simp only [wp_bind, wp_setWriteSlot, wp_pure]
        exact .inl (by simp)
    | some key =>
        simp only [wp_bind, wp_portRoleAllowed, wp_ite, wp_setWriteSlot, wp_pure]
        intro role host _
        refine ⟨fun _ => .inl (by simp), fun _ => ?_⟩
        simp only [wp_callOpen]
        intro out _
        cases out with
        | none =>
            simp only [wp_bind, wp_setWriteSlot, wp_pure]
            exact .inl (by simp)
        | some plain =>
            simp only [wp_bind, wp_setLastWriteKid, wp_portWriteAfter, wp_ite, wp_setWriteSlot,
              wp_pure, wp_portTime]
            intro rc keys host _
            exact ⟨fun _ => .inl (by simp), fun _ => ⟨fun _ _ _ _ => .inr ⟨_, rfl⟩,
              fun _ => .inr ⟨_, rfl⟩⟩⟩
  unfold dispatchRead dispatchWrite
  simp only [hwo, beq_iff_eq, hone, hzero, if_true, Bool.false_eq_true, if_false, Bool.not_true]
  rw [wp_ite]
  refine ⟨fun hro => ?_, fun _ => hverify⟩
  rw [if_neg (hread hro)]
  exact hverify

end Needed

theorem noTouch_of_isolated (s : Server H) (a : Input H) (h : StepIsolated gcm P s a) :
    NoForeignTouch gcm P s a := by
  cases a with
  | request client d req replyMax =>
      intro idx entry hf
      refine ⟨fun hforeign hfetch => ?_, fun hforeign hdata => ?_⟩
      · exact fetch_touches (w := ⟨s.sod, s.host, []⟩) hf hforeign.inUse hfetch
          (h.read idx hforeign).1
      · obtain ⟨hsame, habort⟩ := h.write idx hforeign
        have hidle : readAnswers (P.timeMs s.host).1 (s.sod.readSlot idx) entry req = false := by
          refine Bool.eq_false_iff.mpr fun hans => ?_
          obtain ⟨hro, hlen | hlen⟩ := readAnswers_length hans
          · exact hdata.2.2.1 hro hlen
          · have := hdata.2.1
            omega
        obtain ⟨code, hcode⟩ := habort entry hf hdata.1 hidle
        rcases frame_touches (w := ⟨s.sod, s.host, []⟩) hf hforeign.inUse hdata with
          hdown | ⟨reply, hreply⟩
        · have hup := hforeign.inUse
          rw [← hsame] at hup
          exact absurd hdown (by simpa [step, serve] using hup)
        · have hok : (exchange gcm P s client d req replyMax).result = .ok reply := hreply
          rw [hok] at hcode
          cases hcode
  | registerEntry | setKeyEx | clearKeys | application => trivial

/-- **Isolation, exactly.**  In every run, every step isolates the clients from each
    other if and only if no step is a foreign fetch of a fresh prepared read or a
    foreign data-bearing frame on a fresh write slot. -/
theorem isolated_iff (gcm : Gcm) (P : Ports H) (host : H) (inputs : List (Input H)) :
    Along (step gcm P) (StepIsolated gcm P) (boot host) inputs ↔
      Along (step gcm P) (NoForeignTouch gcm P) (boot host) inputs :=
  along_congr fun s a => ⟨noTouch_of_isolated s a, isolated_of_noTouch s a⟩

/-! ## Worked runs -/

/-- Client 20 has armed a write on one entry and a read on another. -/
def sampleArmed : List (Input (List Rand)) :=
  [.registerEntry ⟨0x20100000, 0, 0x02, 4⟩, .registerEntry ⟨0x20200000, 0, 0x01, 4⟩,
    .setKeyEx 1 sampleKey 1, .request 20 0x20100000 [] 64,
    .request 20 0x20200000 (0x81 :: toList (sampleRand 5)) 64]

/-- The server in which both slots of client 20 are armed and fresh. -/
def sampleHeld : Server (List Rand) :=
  after sampleGcm sampleReader [sampleRand 9, sampleRand 10] sampleArmed

/-- **Foreign touches.**  Two bytes from client 21 tear the write of client 20 down,
    and an empty request from client 21 takes the read reply of client 20. -/
theorem foreign_touches :
    ¬ StepIsolated sampleGcm sampleReader sampleHeld (.request 21 0x20100000 [0, 0] 64) ∧
      ¬ StepIsolated sampleGcm sampleReader sampleHeld (.request 21 0x20200000 [] 64) := by
  constructor
  · intro h
    have hsame := (h.write 0 ⟨by decide +kernel, by decide +kernel, by decide +kernel⟩).1
    have hdown : ((step sampleGcm sampleReader sampleHeld
        (.request 21 0x20100000 [0, 0] 64)).sod.writeSlot 0).inUse = false := by decide +kernel
    rw [hsame] at hdown
    exact absurd hdown (by decide +kernel)
  · intro h
    have hsame := (h.read 1 ⟨by decide +kernel, by decide +kernel, by decide +kernel⟩).1
    have hdown : ((step sampleGcm sampleReader sampleHeld
        (.request 21 0x20200000 [] 64)).sod.readSlot 1).inUse = false := by decide +kernel
    rw [hsame] at hdown
    exact absurd hdown (by decide +kernel)

end SofaIsolation
