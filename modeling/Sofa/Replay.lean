import Sofa.Writes
import Sofa.Lib.Ledger

/-! # Replay of authenticated writes

    Every frame that reaches `write_after` is booked in a ledger of sessions: a
    Pass-2 frame opens a session on its data id, a poll continues it, a new
    challenge closes it.  The headline, `applied_once`: as long as no Pass-2
    frame is served on a session that is already open, no poll on a session that
    is not, no poll is refused by `write_after`, and the nonce windows of
    sessions under one key id do not meet, no seal is applied twice.

    `replayed_pass2` is a run in which the first of these fails. -/

namespace SofaReplay

open ByteBlock SofaConfig SofaAead SofaOd SofaMoves SofaServer SofaWrites Ledger Machine

/-! ## The ledger of applied frames -/

/-- What an applied frame does to the session on its data id.  A single-shot
    Pass-2 frame leaves no session behind. -/
def frameActs (d : UInt32) (f : Frame) : List (UInt32 × Act Nonce Frame) :=
  if f.call.direction = dirWritePollRequest then [(d, .continued f)]
  else if keyidIsCyclic f.call.keyId then [(d, .opened f.call.nonce f)]
  else [(d, .opened f.call.nonce f), (d, .closed)]

/-- What an exchange does to the sessions: a new challenge closes the session on
    its data id. -/
def writeActs (x : Exchange) : List (UInt32 × Act Nonce Frame) :=
  (if issued x then [(x.dataId, .closed)] else [])
    ++ (appliedFrames x.calls).flatMap (frameActs x.dataId)

/-- The ledger of a history. -/
def writeBook (history : List Exchange) : Book UInt32 Nonce Frame :=
  ledger (history.flatMap writeActs)

/-- A Pass-2 frame has opened a session on the data id, and no challenge was
    issued since. -/
def sessionOpen (history : List Exchange) (d : UInt32) : Bool :=
  ((writeBook history).live d).isSome

theorem writeBook_append (h : List Exchange) (x : Exchange) :
    writeBook (h ++ [x]) = (writeActs x).foldl (fun b a => b.record a.1 a.2) (writeBook h) := by
  simp [writeBook, ledger_append]

/-! ## The condition -/

/-- `write_after` refused the payload. -/
def refusesWrite : Event → Bool
  | .writeAfter _ _ _ rc => rc != abortNone
  | _ => false

/-- The branches that go wrong are not taken: no Pass-2 frame on an open session
    that still holds the slot, no poll on a session no Pass-2 frame opened, and
    no poll that `write_after` refuses. -/
def ReplayGuard (gcm : Gcm) (P : Ports H) (s : Server H) : Input H → Prop
  | .request client d req replyMax =>
      ∀ found ∈ s.sod.registry.find d, (s.sod.writeSlot found.1).inUse = true →
        (req.length = pass2Len found.2 → sessionOpen s.history d = false) ∧
        (req.length = pollLen found.2 → (s.sod.writeSlot found.1).cyclic = true →
          sessionOpen s.history d = true ∧
            ∀ e ∈ (exchange gcm P s client d req replyMax).calls, refusesWrite e = false)
  | _ => True

instance (gcm : Gcm) (P : Ports H) (s : Server H) : ∀ a, Decidable (ReplayGuard gcm P s a)
  | .request _ d _ _ =>
      inferInstanceAs (Decidable (∀ found ∈ s.sod.registry.find d, _ → _))
  | .registerEntry _ | .setKeyEx _ _ _ | .clearKeys | .application _ => .isTrue trivial

/-- Two cyclic sessions on one data id under one key id byte never poll with the
    same nonce. -/
def WindowsApart (history : List Exchange) : Prop :=
  ∀ u ∈ (writeBook history).uses, ∀ v ∈ (writeBook history).uses, u.session ≠ v.session →
    keyidIsCyclic u.item.call.keyId = true → u.item.call.keyId = v.item.call.keyId →
    u.item.call.dataId = v.item.call.dataId →
    ∀ c c', 1 ≤ c → c ≤ keyUseLimit → 1 ≤ c' → c' ≤ keyUseLimit →
      buildSessionNonce u.base c ≠ buildSessionNonce v.base c'

/-! ## The invariant -/

/-- What the ledger says about a use: an opening is a Pass-2 frame, a
    continuation is a poll at its counter. -/
structure UseShape (u : Use Nonce Frame) : Prop where
  bounded : u.counter ≤ keyUseLimit
  pass2 : u.counter = 0 → u.item.call.direction = dirWriteRequest ∧
    u.item.call.randoms.isSome = true
  poll : u.counter ≠ 0 → u.item.call.direction = dirWritePollRequest ∧
    u.item.call.randoms = none ∧ keyidIsCyclic u.item.call.keyId = true ∧
    u.item.call.nonce = buildSessionNonce u.base u.counter

/-- The write slots, the ledger and the randoms drawn agree. -/
structure Booked (sod : Sod) (book : Book UInt32 Nonce Frame) (frames : List Frame)
    (rs : List Rand) : Prop where
  /-- The uses are the applied frames. -/
  complete : book.uses.map (·.item) = frames
  shape : ∀ u ∈ book.uses, UseShape u
  /-- A slot in use belongs to a data id; an open session on it has the slot's
      nonce base and counter. -/
  slot : ∀ i, (sod.writeSlot i).inUse = true → ∃ d e, sod.registry.find d = some (i, e) ∧
    (sod.writeSlot i).serverRandom ∈ rs ∧
    ∀ u, book.live d = some u → keyidIsCyclic (sod.writeSlot i).keyId = true ∧
      u.base = (sod.writeSlot i).nonceBase ∧ u.counter = (sod.writeSlot i).counter
  /-- A Pass-2 frame answered a random drawn, and while the slot still holds that
      random the session is open. -/
  answered : ∀ u ∈ book.uses, u.counter = 0 → ∃ cr sr, u.item.call.randoms = some (cr, sr) ∧
    sr ∈ rs ∧ ∃ i e, sod.registry.find u.item.call.dataId = some (i, e) ∧
      ((sod.writeSlot i).inUse = true → (sod.writeSlot i).serverRandom = sr →
        book.live u.item.call.dataId ≠ none)
  /-- No two Pass-2 frames for one data id answered one random. -/
  once : book.uses.Pairwise fun u v => u.counter = 0 → v.counter = 0 →
    u.item.call.dataId = v.item.call.dataId → u.item.call.randoms ≠ v.item.call.randoms

section Booked

variable {sod sod' : Sod} {book : Book UInt32 Nonce Frame} {frames : List Frame}
  {rs rs' : List Rand} {d : UInt32} {idx : Fin sodMaxEntries} {entry : SodEntry}

theorem Booked.start : Booked sodInit .empty [] [] where
  complete := rfl
  shape := by simp [Book.empty]
  slot := by simp [sodInit]
  answered := by simp [Book.empty]
  once := by simp [Book.empty]

/-- Slots may go down, data ids may be registered, randoms may be drawn. -/
theorem Booked.mono (h : Booked sod book frames rs)
    (hreg : ∀ d i e, sod.registry.find d = some (i, e) →
      ∃ e', sod'.registry.find d = some (i, e'))
    (hslot : ∀ i, sod'.writeSlot i = sod.writeSlot i ∨ (sod'.writeSlot i).inUse = false)
    (hrs : ∀ r ∈ rs, r ∈ rs') : Booked sod' book frames rs' := by
  have hup : ∀ i, (sod'.writeSlot i).inUse = true → sod'.writeSlot i = sod.writeSlot i := by
    intro i hi
    rcases hslot i with heq | hdown
    · exact heq
    · rw [hdown] at hi
      cases hi
  refine ⟨h.complete, h.shape, ?_, ?_, h.once⟩
  · intro i hi
    have heq := hup i hi
    rw [heq] at hi ⊢
    obtain ⟨d, e, hf, hr, hlive⟩ := h.slot i hi
    obtain ⟨e', hf'⟩ := hreg d i e hf
    exact ⟨d, e', hf', hrs _ hr, hlive⟩
  · intro u hu h0
    obtain ⟨cr, sr, hrand, hr, i, e, hf, hopen⟩ := h.answered u hu h0
    obtain ⟨e', hf'⟩ := hreg _ i e hf
    refine ⟨cr, sr, hrand, hrs _ hr, i, e', hf', fun hi hsr => ?_⟩
    have heq := hup i hi
    rw [heq] at hi hsr
    exact hopen hi hsr

/-- A session whose slot is down may be closed. -/
theorem Booked.close (h : Booked sod book frames rs) (hf : sod.registry.find d = some (idx, entry))
    (hdown : (sod.writeSlot idx).inUse = false) :
    Booked sod (book.record d .closed) frames rs := by
  refine ⟨h.complete, h.shape, ?_, ?_, h.once⟩
  · intro i hi
    obtain ⟨d', e, hf', hr, hlive⟩ := h.slot i hi
    refine ⟨d', e, hf', hr, fun u hu => hlive u ?_⟩
    have hd : d' ≠ d := by
      rintro rfl
      rw [hf] at hf'
      cases hf'
      rw [hdown] at hi
      cases hi
    rwa [live_of_ne book d hd] at hu
  · intro u hu h0
    obtain ⟨cr, sr, hrand, hr, i, e, hf', hopen⟩ := h.answered u hu h0
    refine ⟨cr, sr, hrand, hr, i, e, hf', fun hi hsr => ?_⟩
    have hd : u.item.call.dataId ≠ d := by
      intro hd
      rw [hd, hf] at hf'
      cases hf'
      rw [hdown] at hi
      cases hi
    rw [live_of_ne book d hd]
    exact hopen hi hsr

/-- A challenge with a new random arms the slot of a closed session. -/
theorem Booked.arm {sr : Rand} (h : Booked sod book frames rs)
    (hf : sod.registry.find d = some (idx, entry)) (hclosed : book.live d = none)
    (hreg : sod'.registry = sod.registry)
    (hne : ∀ j, j ≠ idx → sod'.writeSlot j = sod.writeSlot j)
    (hsr : (sod'.writeSlot idx).serverRandom = sr) (hnew : sr ∉ rs) :
    Booked sod' book frames (rs ++ [sr]) := by
  refine ⟨h.complete, h.shape, ?_, ?_, h.once⟩
  · intro i hi
    rw [hreg]
    by_cases hidx : i = idx
    · subst hidx
      refine ⟨d, entry, hf, by simp [hsr], ?_⟩
      intro u hu
      rw [hclosed] at hu
      cases hu
    · rw [hne i hidx] at hi ⊢
      obtain ⟨d', e, hf', hr, hlive⟩ := h.slot i hi
      exact ⟨d', e, hf', List.mem_append_left _ hr, hlive⟩
  · intro u hu h0
    obtain ⟨cr, sr', hrand, hr, i, e, hf', hopen⟩ := h.answered u hu h0
    refine ⟨cr, sr', hrand, List.mem_append_left _ hr, i, e, by rw [hreg]; exact hf', ?_⟩
    intro hi heq
    by_cases hidx : i = idx
    · subst hidx
      rw [hsr] at heq
      exact absurd (heq ▸ hr) hnew
    · rw [hne i hidx] at hi heq
      exact hopen hi heq

/-- A Pass-2 frame that answers the challenge of a closed session opens it. -/
theorem Booked.openSession {f : Frame} {cr : Rand} (h : Booked sod book frames rs)
    (hf : sod.registry.find d = some (idx, entry)) (hclosed : book.live d = none)
    (huse : (sod.writeSlot idx).inUse = true) (hdata : f.call.dataId = d)
    (hdir : f.call.direction = dirWriteRequest)
    (hrand : f.call.randoms = some (cr, (sod.writeSlot idx).serverRandom))
    (hreg : sod'.registry = sod.registry)
    (hne : ∀ j, j ≠ idx → sod'.writeSlot j = sod.writeSlot j)
    (hslot : (sod'.writeSlot idx).inUse = true → keyidIsCyclic (sod'.writeSlot idx).keyId = true ∧
      f.call.nonce = (sod'.writeSlot idx).nonceBase ∧ (sod'.writeSlot idx).counter = 0 ∧
      (sod'.writeSlot idx).serverRandom = (sod.writeSlot idx).serverRandom) :
    Booked sod' (book.record d (.opened f.call.nonce f)) (frames ++ [f]) rs := by
  obtain ⟨d', e', hf', hdrawn, -⟩ := h.slot idx huse
  have hlive : (book.record d (.opened f.call.nonce f)).live d ≠ none := by simp
  refine ⟨?_, ?_, ?_, ?_, ?_⟩
  · rw [uses_opened, List.map_append, h.complete]
    rfl
  · intro u hu
    rw [uses_opened] at hu
    rcases List.mem_append.mp hu with hu | hu
    · exact h.shape u hu
    · obtain rfl := List.mem_singleton.mp hu
      exact ⟨Nat.zero_le _, fun _ => ⟨hdir, by simp [hrand]⟩, fun h0 => absurd rfl h0⟩
  · intro i hi
    rw [hreg]
    by_cases hidx : i = idx
    · subst hidx
      obtain ⟨hcyc, hbase, hcount, hsame⟩ := hslot hi
      refine ⟨d, entry, hf, by rw [hsame]; exact hdrawn, ?_⟩
      intro u hu
      rw [live_opened, Option.some.injEq] at hu
      subst hu
      exact ⟨hcyc, hbase, hcount.symm⟩
    · rw [hne i hidx] at hi ⊢
      obtain ⟨d₁, e₁, hf₁, hr, hlive₁⟩ := h.slot i hi
      refine ⟨d₁, e₁, hf₁, hr, fun u hu => hlive₁ u ?_⟩
      have hd : d₁ ≠ d := by
        rintro rfl
        rw [hf] at hf₁
        cases hf₁
        exact hidx rfl
      rwa [live_of_ne book d hd] at hu
  · intro u hu h0
    rw [uses_opened] at hu
    rw [hreg]
    rcases List.mem_append.mp hu with hu | hu
    · obtain ⟨cr', sr, hrand', hr, i, e, hf₁, hopen⟩ := h.answered u hu h0
      refine ⟨cr', sr, hrand', hr, i, e, hf₁, fun hi hsr => ?_⟩
      by_cases hd : u.item.call.dataId = d
      · rw [hd]
        exact hlive
      · have hidx : i ≠ idx := by
          rintro rfl
          exact hd (find_index hf₁ hf)
        rw [live_of_ne book d hd]
        rw [hne i hidx] at hi hsr
        exact hopen hi hsr
    · obtain rfl := List.mem_singleton.mp hu
      refine ⟨cr, _, hrand, hdrawn, idx, entry, by rw [hdata]; exact hf, fun _ _ => ?_⟩
      rw [hdata]
      exact hlive
  · rw [uses_opened]
    refine List.pairwise_append.mpr ⟨h.once, List.pairwise_singleton _ _, ?_⟩
    intro u hu v hv h0 _ hsame hcontra
    obtain rfl := List.mem_singleton.mp hv
    obtain ⟨cr', sr, hrand', -, i, e, hf₁, hopen⟩ := h.answered u hu h0
    rw [hrand, hrand'] at hcontra
    obtain ⟨-, rfl⟩ := Prod.mk.inj (Option.some.inj hcontra)
    rw [hsame, hdata] at hf₁ hopen
    rw [hf] at hf₁
    cases hf₁
    exact hopen huse rfl hclosed

/-- A poll continues the open session of its slot. -/
theorem Booked.continueSession {f : Frame} {u : Use Nonce Frame} {now : UInt16}
    (h : Booked sod book frames rs) (hf : sod.registry.find d = some (idx, entry))
    (hlive : book.live d = some u) (huse : (sod.writeSlot idx).inUse = true)
    (hlimit : (sod.writeSlot idx).counter < keyUseLimit)
    (hdir : f.call.direction = dirWritePollRequest) (hrand : f.call.randoms = none)
    (hkid : f.call.keyId = (sod.writeSlot idx).keyId)
    (hnonce : f.call.nonce =
      buildSessionNonce (sod.writeSlot idx).nonceBase ((sod.writeSlot idx).counter + 1))
    (hreg : sod'.registry = sod.registry)
    (hne : ∀ j, j ≠ idx → sod'.writeSlot j = sod.writeSlot j)
    (hslot : sod'.writeSlot idx = { sod.writeSlot idx with
      counter := (sod.writeSlot idx).counter + 1, armedAt := now }) :
    Booked sod' (book.record d (.continued f)) (frames ++ [f]) rs := by
  obtain ⟨d', e', hf', hdrawn, hagree⟩ := h.slot idx huse
  obtain rfl : d' = d := find_index hf' hf
  obtain ⟨hcyc, hbase, hcount⟩ := hagree u hlive
  have huses := uses_continued hlive f
  have hlive' := live_continued hlive f
  refine ⟨?_, ?_, ?_, ?_, ?_⟩
  · rw [huses, List.map_append, h.complete]
    rfl
  · intro v hv
    rw [huses] at hv
    rcases List.mem_append.mp hv with hv | hv
    · exact h.shape v hv
    · obtain rfl := List.mem_singleton.mp hv
      refine ⟨by simp only; omega, fun h0 => absurd h0 (Nat.succ_ne_zero _), fun _ => ?_⟩
      exact ⟨hdir, hrand, by rw [hkid]; exact hcyc, by rw [hnonce, hbase, hcount]⟩
  · intro i hi
    rw [hreg]
    by_cases hidx : i = idx
    · subst hidx
      rw [hslot]
      refine ⟨d', entry, hf, hdrawn, ?_⟩
      intro v hv
      rw [hlive', Option.some.injEq] at hv
      subst hv
      exact ⟨hcyc, hbase, by simp only [hcount]⟩
    · rw [hne i hidx] at hi ⊢
      obtain ⟨d₁, e₁, hf₁, hr, hlive₁⟩ := h.slot i hi
      refine ⟨d₁, e₁, hf₁, hr, fun v hv => hlive₁ v ?_⟩
      have hd : d₁ ≠ d' := by
        rintro rfl
        rw [hf] at hf₁
        cases hf₁
        exact hidx rfl
      rwa [live_of_ne book d' hd] at hv
  · intro v hv h0
    rw [huses] at hv
    rw [hreg]
    rcases List.mem_append.mp hv with hv | hv
    · obtain ⟨cr', sr, hrand', hr, i, e, hf₁, hopen⟩ := h.answered v hv h0
      refine ⟨cr', sr, hrand', hr, i, e, hf₁, fun hi hsr => ?_⟩
      by_cases hd : v.item.call.dataId = d'
      · rw [hd, hlive']
        simp
      · have hidx : i ≠ idx := by
          rintro rfl
          exact hd (find_index hf₁ hf)
        rw [live_of_ne book d' hd]
        rw [hne i hidx] at hi hsr
        exact hopen hi hsr
    · obtain rfl := List.mem_singleton.mp hv
      exact absurd h0 (Nat.succ_ne_zero _)
  · rw [huses]
    refine List.pairwise_append.mpr ⟨h.once, List.pairwise_singleton _ _, ?_⟩
    intro v _ x hx _ h0
    obtain rfl := List.mem_singleton.mp hx
    exact absurd h0 (Nat.succ_ne_zero _)

end Booked

/-! ## The invariant along a run -/

variable {H : Type} {gcm : Gcm} {P : Ports H}

/-- The invariant of a server state: relevant as long as no random repeated. -/
def BookedServer (s : Server H) : Prop :=
  (randoms s.history).Nodup →
    Booked s.sod (writeBook s.history) (applied s.history) (randoms s.history)

/-- An exchange that applies no frame and issues no challenge books nothing. -/
theorem writeBook_silent {h : List Exchange} {x : Exchange} (hframes : appliedFrames x.calls = [])
    (hsilent : issued x = false) : writeBook (h ++ [x]) = writeBook h := by
  simp [writeBook_append, writeActs, hframes, hsilent]

theorem writeActs_frame {x : Exchange} {f : Frame} (hframes : appliedFrames x.calls = [f])
    (hsilent : issued x = false) : writeActs x = frameActs x.dataId f := by
  simp [writeActs, hframes, hsilent]

theorem frameActs_pass2 {slot : WriteSlot} {entry : SodEntry} {req : List UInt8} {key : Key}
    {d : UInt32} : frameActs d (pass2Frame P slot entry req key) =
      if keyidIsCyclic (reqHead req) then
        [(d, .opened (pass2Frame P slot entry req key).call.nonce (pass2Frame P slot entry req key))]
      else
        [(d, .opened (pass2Frame P slot entry req key).call.nonce (pass2Frame P slot entry req key)),
          (d, .closed)] := by
  have hdir : (pass2Frame P slot entry req key).call.direction ≠ dirWritePollRequest := by
    change dirWriteRequest ≠ dirWritePollRequest
    decide
  rw [frameActs, if_neg hdir]
  rfl

/-- **One request keeps the ledger.** -/
theorem booked_request {s : Server H} {client : UInt16} {d : UInt32} {req : List UInt8}
    {replyMax : Nat} (hI : BookedServer s)
    (hcond : ReplayGuard gcm P s (.request client d req replyMax)) :
    BookedServer (step gcm P s (.request client d req replyMax)) := by
  rcases request_cases gcm P s client d req replyMax with ⟨-, -, hstep⟩ |
    ⟨idx, entry, log, r, s', host, hf, hmove, hx, hstep⟩
  · rw [hstep]
    intro hnodup
    have hsilent : writeBook (s.history ++ [⟨client, d, req, .notHandled, []⟩]) =
        writeBook s.history := writeBook_silent rfl rfl
    simp only [randoms_append, drawn_nil, List.append_nil, applied_append] at hnodup ⊢
    rw [hsilent]
    simpa [appliedFrames] using hI hnodup
  · have hguard := hcond (idx, entry) hf
    rw [hstep]
    intro hnodup
    simp only [randoms_append] at hnodup ⊢
    have h := hI (List.nodup_append.mp hnodup).1
    have hreg := Move.registry hmove
    have hne : ∀ j, j ≠ idx → s'.writeSlot j = s.sod.writeSlot j :=
      fun j hj => Move.writeSlot_of_ne hmove hj
    have hmono : ∀ r ∈ randoms s.history, r ∈ randoms s.history ++ drawn log :=
      fun r hr => List.mem_append_left _ hr
    have hreg' : ∀ d i e, s.sod.registry.find d = some (i, e) →
        ∃ e', s'.registry.find d = some (i, e') := fun d i e hfind => ⟨e, by rw [hreg]; exact hfind⟩
    have heff := write_effect d hmove
    generalize hslot : s'.writeSlot idx = slot at heff
    rw [applied_append]
    cases heff with
    | untouched frames silent =>
        rw [writeBook_silent frames silent, frames, List.append_nil]
        refine h.mono hreg' (fun i => .inl ?_) hmono
        by_cases hidx : i = idx
        · rw [hidx, hslot]
        · exact hne i hidx
    | dropped frames silent down =>
        rw [writeBook_silent frames silent, frames, List.append_nil]
        refine h.mono hreg' (fun i => ?_) hmono
        by_cases hidx : i = idx
        · exact .inr (by rw [hidx, hslot, down])
        · exact .inl (hne i hidx)
    | @armed wire sr now frames handed random binding =>
        have hbook : writeBook (s.history ++ [⟨client, d, req, r, log⟩]) =
            (writeBook s.history).record d .closed := by
          simp [writeBook_append, writeActs, frames, handed]
        simp only at random frames
        rw [hbook, frames, List.append_nil, random]
        rw [random] at hnodup
        have hnew : sr ∉ randoms s.history := fun hmem =>
          (List.nodup_append.mp hnodup).2.2 sr hmem sr (List.mem_singleton.mpr rfl) rfl
        -- the old session goes down and is closed before the slot is armed
        have hdown : Booked (s.sod.setWrite idx {}) (writeBook s.history) (applied s.history)
            (randoms s.history) := by
          refine h.mono (fun d i e hfind => ⟨e, hfind⟩) (fun i => ?_) (fun r hr => hr)
          by_cases hidx : i = idx
          · exact .inr (by simp [hidx])
          · exact .inl (by simp [Sod.setWrite, hidx])
        have hclosed : Booked (s.sod.setWrite idx {}) ((writeBook s.history).record d .closed)
            (applied s.history) (randoms s.history) := hdown.close hf (by simp)
        refine hclosed.arm hf (live_closed _ _) hreg ?_ (by rw [hslot]; rfl) hnew
        intro j hj
        simp [hne j hj, Sod.setWrite, hj]
    | @consumed now key slot checked frames silent down =>
        have hrs : ∀ r ∈ randoms s.history, r ∈ randoms s.history ++ drawn log := hmono
        have hclosed := (hguard checked.inUse).1 checked.len
        have hlive : (writeBook s.history).live d = none := by
          simpa [sessionOpen] using hclosed
        have hopen : Booked s' _ _ _ := h.openSession
          (f := pass2Frame P (s.sod.writeSlot idx) entry req key)
          hf hlive checked.inUse (find_dataId hf) rfl rfl hreg hne
          (fun huse => by rw [hslot, down] at huse; cases huse)
        have hopen' : Booked s' _ _ _ := hopen.mono (fun d i e hfind => ⟨e, hfind⟩)
          (fun i => .inl rfl) hrs
        rw [writeBook_append, writeActs_frame frames silent, frames, frameActs_pass2]
        split
        · exact hopen'
        · exact hopen'.close (by rw [hreg]; exact hf) (by rw [hslot]; exact down)
    | @opened now now' key checked frames silent cyclic =>
        have hclosed := (hguard checked.inUse).1 checked.len
        have hlive : (writeBook s.history).live d = none := by
          simpa [sessionOpen] using hclosed
        have hopen : Booked s' _ _ _ := h.openSession
          (f := pass2Frame P (s.sod.writeSlot idx) entry req key)
          hf hlive checked.inUse (find_dataId hf) rfl rfl hreg hne
          (fun _ => by rw [hslot]; exact ⟨cyclic, rfl, rfl, rfl⟩)
        rw [writeBook_append, writeActs_frame frames silent, frames, frameActs_pass2, if_pos cyclic]
        exact hopen.mono (fun d i e hfind => ⟨e, hfind⟩) (fun i => .inl rfl) hmono
    | pollRefused checked frames silent hook refusal =>
        have haccept := ((hguard checked.inUse).2 checked.len checked.cyclic).2
        rw [hx] at haccept
        have hrefused := haccept _ hook
        simp [refusesWrite, refusal] at hrefused
    | @polled now now' key checked frames silent =>
        have hopened := ((hguard checked.inUse).2 checked.len checked.cyclic).1
        obtain ⟨u, hlive⟩ := Option.isSome_iff_exists.mp hopened
        have hcont : Booked s' _ _ _ := h.continueSession
          (f := writePollFrame P (s.sod.writeSlot idx) entry req key) hf hlive
          checked.inUse checked.budget rfl rfl rfl rfl hreg hne hslot
        have hacts : frameActs d (writePollFrame P (s.sod.writeSlot idx) entry req key) =
            [(d, .continued (writePollFrame P (s.sod.writeSlot idx) entry req key))] := rfl
        rw [writeBook_append, writeActs_frame frames silent, frames, hacts]
        exact hcont.mono (fun d i e hfind => ⟨e, hfind⟩) (fun i => .inl rfl) hmono

/-- **The run lemma.** -/
theorem booked_run {host : H} {inputs : List (Input H)}
    (hguard : Along (step gcm P) (ReplayGuard gcm P) (boot host) inputs) :
    BookedServer (after gcm P host inputs) := by
  refine server_induction (fun _ => Booked.start)
    (fun s client d req replyMax hI ha => booked_request hI ha) ?_ hguard
  intro s a hI _ hkept hnodup
  rw [hkept.history] at hnodup ⊢
  exact (hI hnodup).mono hkept.lookup (fun i => .inl (by rw [hkept.writeSlot])) (fun r hr => hr)

/-! ## No seal is applied twice -/

/-- Two frames that one seal justifies agree in every authenticated field. -/
theorem justified_fields {σ : Seal} {f g : Frame}
    (hf : f.call.randoms.isSome = dirTakesDualRandoms f.call.direction)
    (hg : g.call.randoms.isSome = dirTakesDualRandoms g.call.direction)
    (hjf : σ.Justifies f.call f.cipher f.tag) (hjg : σ.Justifies g.call g.cipher g.tag) :
    f.call.nonce = g.call.nonce ∧ f.call.direction = g.call.direction ∧
      f.call.keyId = g.call.keyId ∧ f.call.dataId = g.call.dataId ∧
      f.call.randoms = g.call.randoms := by
  have haad : f.call.aad f.cipher = g.call.aad g.cipher := hjf.aad.symm.trans hjg.aad
  obtain ⟨hdir, hkid, hdata, hrand, -⟩ := aad_fields hf hg haad
  exact ⟨hjf.nonce.symm.trans hjg.nonce, hdir, hkid, hdata, hrand⟩

theorem UseShape.randoms {u : Use Nonce Frame} (h : UseShape u) :
    u.item.call.randoms.isSome = dirTakesDualRandoms u.item.call.direction := by
  by_cases h0 : u.counter = 0
  · obtain ⟨hdir, hrand⟩ := h.pass2 h0
    rw [hdir, hrand]
    rfl
  · obtain ⟨hdir, hrand, -⟩ := h.poll h0
    rw [hdir, hrand]
    rfl

/-- **Applied at most once.**  In a run whose steps all meet the condition, whose
    randoms never repeat, and whose sessions keep their nonce windows apart, no
    seal is behind two frames that reached `write_after`. -/
theorem applied_once (gcm : Gcm) (P : Ports H) (host : H) (inputs : List (Input H))
    (hrandom : (randoms (after gcm P host inputs).history).Nodup)
    (hguard : Along (step gcm P) (ReplayGuard gcm P) (boot host) inputs)
    (hapart : WindowsApart (after gcm P host inputs).history) (σ : Seal) :
    (applied (after gcm P host inputs).history).Pairwise fun f g =>
      ¬ (σ.Justifies f.call f.cipher f.tag ∧ σ.Justifies g.call g.cipher g.tag) := by
  have hb := booked_run hguard hrandom
  have hwithin := nonces_distinct buildSessionNonce_inj _
    (fun u hu => (hb.shape u hu).bounded)
  rw [← hb.complete, List.pairwise_map]
  refine (hb.once.and hwithin).imp_of_mem ?_
  rintro u v hu hv ⟨honce, hwithin⟩ ⟨hju, hjv⟩
  have hsu := hb.shape u hu
  have hsv := hb.shape v hv
  obtain ⟨hnonce, hdir, hkid, hdata, hrand⟩ := justified_fields hsu.randoms hsv.randoms hju hjv
  by_cases hu0 : u.counter = 0
  · have hv0 : v.counter = 0 := by
      by_contra hv0
      rw [(hsu.pass2 hu0).1, (hsv.poll hv0).1] at hdir
      exact absurd hdir (by decide)
    exact honce hu0 hv0 hdata hrand
  · have hv0 : v.counter ≠ 0 := by
      intro hv0
      rw [(hsu.poll hu0).1, (hsv.pass2 hv0).1] at hdir
      exact absurd hdir (by decide)
    obtain ⟨-, -, hcyc, hnu⟩ := hsu.poll hu0
    obtain ⟨-, -, -, hnv⟩ := hsv.poll hv0
    rw [hnu, hnv] at hnonce
    by_cases hsame : u.session = v.session
    · exact hwithin hsame hnonce
    · exact hapart u hu v hv hsame hcyc hkid hdata _ _ (by omega) hsu.bounded (by omega)
        hsv.bounded hnonce

/-! ## Worked runs -/

/-- The Pass-2 frame of an open session is sent again. -/
def sampleReplay : List (Input (List Rand)) :=
  [.registerEntry sampleEntry, .setKeyEx 1 sampleKey 1, .request 20 0x20100000 [] 64,
    .request 20 0x20100000 (pass2Request (sampleRand 5) samplePass2) 64,
    .request 20 0x20100000 (pass2Request (sampleRand 5) samplePass2) 64]

/-- `applied_once` on the worked session: two frames are applied, by two seals. -/
theorem sampleSession_applied_once :
    ((applied (after sampleGcm (samplePorts fun _ => []) [sampleRand 9] sampleSession).history).length
      = 2) ∧
    (applied (after sampleGcm (samplePorts fun _ => []) [sampleRand 9] sampleSession).history).Pairwise
      fun f g => ¬ (samplePoll.Justifies f.call f.cipher f.tag ∧
        samplePoll.Justifies g.call g.cipher g.tag) := by
  refine ⟨by decide +kernel, applied_once _ _ _ _ (by decide +kernel) (by decide +kernel) ?_ _⟩
  have hone : ∀ u ∈ (writeBook (after sampleGcm (samplePorts fun _ => []) [sampleRand 9]
      sampleSession).history).uses, u.session = 0 := by decide +kernel
  intro u hu v hv hne
  exact absurd ((hone u hu).trans (hone v hv).symm) hne

/-- **A replayed write.**  The randoms do not repeat and every frame that verified
    is the one the client sealed, yet that one seal reaches `write_after` twice. -/
theorem replayed_pass2 :
    (randoms (after sampleGcm (samplePorts fun _ => []) [sampleRand 9] sampleReplay).history).Nodup
      ∧ samplePass2.Made sampleGcm ∧ Justified [samplePass2]
        (after sampleGcm (samplePorts fun _ => []) [sampleRand 9] sampleReplay).history
      ∧ ¬ (applied (after sampleGcm (samplePorts fun _ => []) [sampleRand 9]
          sampleReplay).history).Pairwise fun f g =>
        ¬ (samplePass2.Justifies f.call f.cipher f.tag ∧
          samplePass2.Justifies g.call g.cipher g.tag) := by
  decide +kernel

end SofaReplay
