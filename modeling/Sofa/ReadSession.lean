import Sofa.Confidential

/-! # The counter of a cyclic read session

    A read session seals once when it is armed, under counter 0, and once for each
    poll it answers, under the next counter.  Requests of any client can arrive in
    between, on this entry or another, and seals can fail.

    The headline, `counter_discipline`: in every run, the seals that succeeded since
    the last arming of an entry were made under nonces 0, 1, 2, … of one nonce base,
    so they are pairwise distinct and at most `keyUseLimit + 1`; and one request
    moves a counter by one when it is an answered poll of that session, and not at
    all when it is aborted. -/

namespace SofaReadSession

open ByteBlock SofaConfig SofaAead SofaOd SofaMoves SofaServer SofaReads SofaConfidential Machine

variable {H : Type} {gcm : Gcm} {P : Ports H}

/-! ## The seals of a session -/

/-- The nonces of the successful seals an exchange made for `d`. -/
def sealNonces (d : UInt32) (x : Exchange) : List Nonce :=
  if x.dataId = d then
    ((sealings x.calls).filter (·.out.isSome)).map (·.call.nonce)
  else []

/-- The nonces of the successful seals a list of exchanges made for `d`. -/
def sessionNonces (d : UInt32) (xs : List Exchange) : List Nonce := xs.flatMap (sealNonces d)

/-- The exchanges from the last arming of `d` on; all of them when there is none. -/
def sinceArming (d : UInt32) (history : List Exchange) : List Exchange :=
  history.foldl (fun since x => if arms d x then [x] else since ++ [x]) []

theorem sinceArming_append (d : UInt32) (h : List Exchange) (x : Exchange) :
    sinceArming d (h ++ [x]) = if arms d x then [x] else sinceArming d h ++ [x] := by
  simp [sinceArming]

/-- What follows an arming, up to the next one, is what the fold collects. -/
theorem sinceArming_split {d : UInt32} {pre rest : List Exchange} {x : Exchange}
    (hx : arms d x = true) (hrest : ∀ y ∈ rest, arms d y = false) :
    sinceArming d (pre ++ x :: rest) = x :: rest := by
  induction rest using List.reverseRecOn with
  | nil => rw [sinceArming_append, if_pos hx]
  | append_singleton rest y ih =>
      have hy : ¬ arms d y = true := by simp [hrest y (by simp)]
      have hassoc : pre ++ x :: (rest ++ [y]) = (pre ++ x :: rest) ++ [y] := by simp
      rw [hassoc, sinceArming_append, if_neg hy, ih fun z hz => hrest z (by simp [hz])]
      rfl

theorem sessionNonces_append (d : UInt32) (xs : List Exchange) (x : Exchange) :
    sessionNonces d (xs ++ [x]) = sessionNonces d xs ++ sealNonces d x := by
  simp [sessionNonces]

/-- The first `n` nonces of a session. -/
def noncesOf (base : Nonce) (n : Nat) : List Nonce :=
  (List.range n).map (buildSessionNonce base)

theorem noncesOf_succ (base : Nonce) (n : Nat) :
    noncesOf base (n + 1) = noncesOf base n ++ [buildSessionNonce base n] := by
  simp [noncesOf, List.range_succ]

/-- Within the key budget they are pairwise distinct. -/
theorem noncesOf_nodup {base : Nonce} {n : Nat} (hn : n ≤ keyUseLimit + 1) :
    (noncesOf base n).Nodup := by
  refine List.Nodup.map_on ?_ List.nodup_range
  intro c hc c' hc' heq
  rw [List.mem_range] at hc hc'
  exact buildSessionNonce_inj base c c' (by omega) (by omega) heq

/-! ## The law of one request -/

/-- The request is dispatched as a poll of the read session in the slot. -/
def pollsRead (slot : ReadSlot) (entry : SodEntry) (req : List UInt8) : Bool :=
  entry.hasRo && req.length == 1 && slot.inUse && slot.cyclic

/-- An answered poll advances the counter of its slot by one, an aborted request
    advances none.  (The slot is empty again when a challenge was turned down after
    the old session had been cleared.) -/
structure CountsOnce (d : UInt32) (req : List UInt8) (s s' : Sod) (r : SodResult) : Prop where
  polled : ∀ idx entry, s.registry.find d = some (idx, entry) →
    pollsRead (s.readSlot idx) entry req = true → (∃ reply, r = .ok reply) →
    (s'.readSlot idx).counter = (s.readSlot idx).counter + 1
  aborted : ∀ i, (∃ code, r = .abort code) →
    (s'.readSlot i).counter = (s.readSlot i).counter ∨ s'.readSlot i = {}

/-- Polls are answered by the read side. -/
theorem pollsRead_answers {slot : ReadSlot} {entry : SodEntry} {req : List UInt8}
    (arrival : UInt16) (h : pollsRead slot entry req = true) :
    readAnswers arrival slot entry req = true := by
  simp only [pollsRead, Bool.and_eq_true, beq_iff_eq] at h
  obtain ⟨⟨⟨hro, hlen⟩, huse⟩, hcyc⟩ := h
  simp [readAnswers, hro, hlen, huse, hcyc]

section Request

variable {client arrival : UInt16} {d : UInt32} {req : List UInt8} {s s' : Sod}
  {idx : Fin sodMaxEntries} {entry : SodEntry} {log : List Event} {r : SodResult}

/-- An aborted move leaves the counter, or the slot is the one just cleared. -/
theorem counter_aborted {code : Abort}
    (h : Move gcm P client req arrival s idx entry log (.abort code) s') :
    (s'.readSlot idx).counter = (s.readSlot idx).counter ∨ s'.readSlot idx = {} := by
  cases h with
  | readArmFailed checked sealed => exact .inr (Sod.readSlot_setRead _ _ _)
  | fetchDropped ro empty inUse ready fresh => exact .inl (by rw [Sod.readSlot_setRead])
  | readLapsed ro len inUse cyclic owner why => exact .inl (by rw [Sod.readSlot_setRead])
  | _ => exact .inl rfl

/-- A move leaves the counter, clears it, or advances it below the limit. -/
theorem counter_move (h : Move gcm P client req arrival s idx entry log r s') :
    (s'.readSlot idx).counter = (s.readSlot idx).counter ∨ (s'.readSlot idx).counter = 0 ∨
      (s'.readSlot idx).counter = (s.readSlot idx).counter + 1 ∧
        (s.readSlot idx).counter < keyUseLimit := by
  cases h with
  | readArmFailed checked sealed => exact .inr (.inl (by rw [Sod.readSlot_setRead]))
  | readArmed checked sealed => exact .inr (.inl (by rw [Sod.readSlot_setRead]; rfl))
  | fetchDropped | fetchedOnce | fetchedCyclic | readLapsed =>
      exact .inl (by rw [Sod.readSlot_setRead])
  | readPolled checked passive clock gate source sealed =>
      exact .inr (.inr ⟨by rw [Sod.readSlot_setRead], checked.budget⟩)
  | _ => exact .inl rfl

/-- A poll that was answered advanced the counter. -/
theorem counter_polled {reply : List UInt8}
    (h : Move gcm P client req arrival s idx entry log (.ok reply) s')
    (hpoll : pollsRead (s.readSlot idx) entry req = true) :
    (s'.readSlot idx).counter = (s.readSlot idx).counter + 1 := by
  have hans := pollsRead_answers arrival hpoll
  have hlen : req.length = 1 := by
    simp only [pollsRead, Bool.and_eq_true, beq_iff_eq] at hpoll
    exact hpoll.1.1.2
  have heff := read_effect entry.dataId h
  generalize s'.readSlot idx = slot at heff
  cases heff with
  | untouched seals notDeferred silent => exact absurd rfl (silent hans reply)
  | dropped seals aborted down => cases aborted
  | fetchedOnce seals empty inUse ready delivered =>
      have hzero : req.length = 0 := congrArg List.length empty
      omega
  | fetchedCyclic seals empty inUse ready delivered =>
      have hzero : req.length = 0 := congrArg List.length empty
      omega
  | polled checked seals delivered => rfl
  | _ => contradiction

/-- **Every move counts once.** -/
theorem countsOnce_move (hf : s.registry.find d = some (idx, entry))
    (h : Move gcm P client req arrival s idx entry log r s') : CountsOnce d req s s' r := by
  constructor
  · rintro i e hf' hpoll ⟨reply, rfl⟩
    rw [hf] at hf'
    cases hf'
    exact counter_polled h hpoll
  · rintro i ⟨code, rfl⟩
    by_cases hi : i = idx
    · subst hi
      exact counter_aborted h
    · exact .inl (by rw [Move.readSlot_of_ne h hi])

end Request

/-! ## The invariant -/

/-- The seals made for `d` since its last arming took the first `n` nonces of one
    base, and a slot in use goes on from there. -/
def Continued (s : Server H) (d : UInt32) (base : Nonce) (n : Nat) : Prop :=
  n ≤ keyUseLimit + 1 ∧ sessionNonces d (sinceArming d s.history) = noncesOf base n ∧
    ∀ i e, s.sod.registry.find d = some (i, e) → (s.sod.readSlot i).inUse = true →
      n = (s.sod.readSlot i).counter + 1 ∧
        ((s.sod.readSlot i).cyclic = true → (s.sod.readSlot i).nonceBase = base)

/-- What holds between any two requests. -/
structure Counted (s : Server H) : Prop where
  registered : ∀ i, (s.sod.readSlot i).inUse = true →
    ∃ d e, s.sod.registry.find d = some (i, e)
  limit : ∀ i, (s.sod.readSlot i).counter ≤ keyUseLimit
  nonces : ∀ d, ∃ base n, Continued s d base n

theorem Counted.start (host : H) : Counted (boot host) := by
  refine ⟨?_, ?_, fun d => ⟨zero 12, 0, by simp, rfl, ?_⟩⟩
  · simp [boot, sodInit]
  · simp [boot, sodInit]
  · intro i e hf
    simp [boot, sodInit, Registry.find, Registry.empty] at hf

/-- An exchange that neither arms `d` nor seals for it keeps the session of `d`, when
    the slot it leaves in use is the one it found. -/
theorem Continued.silent {s : Server H} {s' : Sod} {host : H} {x : Exchange} {d : UInt32}
    {base : Nonce} {n : Nat} (h : Continued s d base n)
    (hreg : s'.registry = s.sod.registry) (harms : arms d x = false)
    (hseals : sealNonces d x = [])
    (hslot : ∀ i e, s.sod.registry.find d = some (i, e) → (s'.readSlot i).inUse = true →
      (s.sod.readSlot i).inUse = true ∧
      (s'.readSlot i).counter = (s.sod.readSlot i).counter ∧
      (s'.readSlot i).cyclic = (s.sod.readSlot i).cyclic ∧
      (s'.readSlot i).nonceBase = (s.sod.readSlot i).nonceBase) :
    Continued ⟨s', host, s.history ++ [x]⟩ d base n := by
  obtain ⟨hn, hnonces, hlive⟩ := h
  refine ⟨hn, ?_, ?_⟩
  · show sessionNonces d (sinceArming d (s.history ++ [x])) = noncesOf base n
    rw [sinceArming_append, if_neg (by simp [harms]), sessionNonces_append, hseals,
      List.append_nil, hnonces]
  · rintro i e hf hi
    replace hf : s'.registry.find d = some (i, e) := hf
    rw [hreg] at hf
    obtain ⟨huse, hcounter, hcyclic, hbase⟩ := hslot i e hf hi
    show n = (s'.readSlot i).counter + 1 ∧ ((s'.readSlot i).cyclic = true → _ = base)
    rw [hcounter, hcyclic, hbase]
    exact hlive i e hf huse

/-- An exchange on another entry is silent. -/
theorem sealNonces_of_ne {d : UInt32} {x : Exchange} (hd : x.dataId ≠ d) : sealNonces d x = [] :=
  if_neg hd

/-- **An exchange on the entry itself** opens a session, continues it, or is silent. -/
theorem Continued.exchanged {s : Server H} {s' : Sod} {host : H} {x : Exchange}
    {arrival : UInt16} {idx : Fin sodMaxEntries} {entry : SodEntry} {base : Nonce} {n : Nat}
    (h : Continued s x.dataId base n) (hf : s.sod.registry.find x.dataId = some (idx, entry))
    (hreg : s'.registry = s.sod.registry)
    (heff : ReadEffect gcm P arrival x s.sod idx entry (s'.readSlot idx)) :
    ∃ base n, Continued ⟨s', host, s.history ++ [x]⟩ x.dataId base n := by
  have hself : sealNonces x.dataId x =
      ((sealings x.calls).filter (·.out.isSome)).map (·.call.nonce) := if_pos rfl
  have hquiet : x.result ≠ .defer → sealNonces x.dataId x = [] →
      ((s'.readSlot idx).inUse = true → (s.sod.readSlot idx).inUse = true ∧
        (s'.readSlot idx).counter = (s.sod.readSlot idx).counter ∧
        (s'.readSlot idx).cyclic = (s.sod.readSlot idx).cyclic ∧
        (s'.readSlot idx).nonceBase = (s.sod.readSlot idx).nonceBase) →
      ∃ base n, Continued ⟨s', host, s.history ++ [x]⟩ x.dataId base n := by
    intro hresult hseals hslot
    refine ⟨base, n, h.silent hreg (arms_answered hresult) hseals ?_⟩
    rintro i e hf' hi
    rw [hf] at hf'
    cases hf'
    exact hslot hi
  -- a slot in use at the entry's index continues the nonces it says it does
  have hopen : ∀ base n, n ≤ keyUseLimit + 1 →
      sessionNonces x.dataId (sinceArming x.dataId (s.history ++ [x])) = noncesOf base n →
      n = (s'.readSlot idx).counter + 1 →
      ((s'.readSlot idx).cyclic = true → (s'.readSlot idx).nonceBase = base) →
      ∃ base n, Continued ⟨s', host, s.history ++ [x]⟩ x.dataId base n := by
    intro base n hn hnonces hcounter hbase
    refine ⟨base, n, hn, hnonces, ?_⟩
    rintro i e hf' -
    replace hf' : s'.registry.find x.dataId = some (i, e) := hf'
    rw [hreg, hf] at hf'
    cases hf'
    exact ⟨hcounter, hbase⟩
  generalize hslot : s'.readSlot idx = slot at heff hquiet hopen
  cases heff with
  | untouched seals notDeferred silent =>
      exact hquiet notDeferred (by rw [hself, seals]; rfl) fun hi => ⟨hi, rfl, rfl, rfl⟩
  | dropped seals aborted down =>
      refine hquiet (by simp [aborted]) (by rw [hself, seals]; rfl) fun hi => ?_
      rw [down] at hi
      cases hi
  | armFailed checked seals aborted failed =>
      refine hquiet (by simp [aborted]) (by rw [hself, seals]; rfl) fun hi => ?_
      cases hi
  | @armed pre key plain cipher sr tag now checked seals deferred =>
      refine hopen (aeadXorNonce (reqRandom x.req) sr) 1 (by omega) ?_ rfl ?_
      · rw [sinceArming_append, if_pos (arms_deferred rfl deferred)]
        simp only [sessionNonces, List.flatMap_cons, List.flatMap_nil, List.append_nil]
        rw [hself, seals]
        simp [noncesOf, readArmCall, serverCall]
      · intro hcyclic
        exact if_pos hcyclic
  | fetchedOnce seals empty inUse ready delivered =>
      refine hquiet (by simp [delivered]) (by rw [hself, seals]; rfl) fun hi => ?_
      cases hi
  | fetchedCyclic seals empty inUse ready delivered =>
      exact hquiet (by simp [delivered]) (by rw [hself, seals]; rfl)
        fun _ => ⟨inUse, rfl, rfl, rfl⟩
  | pollFailed checked seals aborted failed =>
      exact hquiet (by simp [aborted]) (by rw [hself, seals]; rfl) fun hi => ⟨hi, rfl, rfl, rfl⟩
  | polled checked seals delivered =>
      obtain ⟨hn, hnonces, hlive⟩ := h
      obtain ⟨hcounter, hbase⟩ := hlive idx entry hf checked.inUse
      have hbudget := checked.budget
      refine hopen base (n + 1) (by omega) ?_ (by rw [hcounter]) fun _ => hbase checked.cyclic
      rw [sinceArming_append, if_neg (by simp [arms, delivered]), sessionNonces_append, hnonces,
        noncesOf_succ, hself, seals, hcounter, ← hbase checked.cyclic]
      rfl

/-- **One request keeps the invariant**, whoever sent it and whatever it did. -/
theorem counted_request {s : Server H} {client : UInt16} {d : UInt32} {req : List UInt8}
    {replyMax : Nat} (h : Counted s) :
    Counted (step gcm P s (.request client d req replyMax)) := by
  rcases request_cases gcm P s client d req replyMax with ⟨-, -, hstep⟩ |
    ⟨idx, entry, log, r, s', host, hf, hmove, -, hstep⟩
  · rw [hstep]
    refine ⟨h.registered, h.limit, fun d' => ?_⟩
    obtain ⟨base, n, hcont⟩ := h.nonces d'
    exact ⟨base, n, hcont.silent rfl (by simp [arms]) (by simp [sealNonces])
      fun i e _ hi => ⟨hi, rfl, rfl, rfl⟩⟩
  · rw [hstep]
    have hreg := Move.registry hmove
    have heff := read_effect d hmove
    have hother := fun i => Move.readSlot_of_ne hmove (j := i)
    refine ⟨?_, ?_, fun d' => ?_⟩
    · intro i hi
      by_cases hidx : i = idx
      · exact ⟨d, entry, by rw [hreg, hidx]; exact hf⟩
      · obtain ⟨d₀, e₀, hf₀⟩ := h.registered i (by rw [← hother i hidx]; exact hi)
        exact ⟨d₀, e₀, by rw [hreg]; exact hf₀⟩
    · intro i
      by_cases hidx : i = idx
      · have hold := h.limit idx
        subst hidx
        show (s'.readSlot i).counter ≤ keyUseLimit
        rcases counter_move hmove with heq | hzero | ⟨hsucc, hlt⟩ <;> omega
      · show (s'.readSlot i).counter ≤ keyUseLimit
        rw [hother i hidx]
        exact h.limit i
    · obtain ⟨base, n, hcont⟩ := h.nonces d'
      by_cases hd : d = d'
      · subst hd
        exact hcont.exchanged hf hreg heff
      · refine ⟨base, n, hcont.silent hreg (arms_of_ne hd) (sealNonces_of_ne hd) ?_⟩
        intro i e hf' hi
        have hidx : i ≠ idx := by
          rintro rfl
          exact hd (find_index hf hf')
        rw [hother i hidx] at hi ⊢
        exact ⟨hi, rfl, rfl, rfl⟩

/-- The application's calls keep it too. -/
theorem counted_kept {s s' : Server H} (h : Counted s) (hkept : Kept s s') : Counted s' := by
  refine ⟨?_, ?_, fun d => ?_⟩
  · intro i hi
    rw [hkept.readSlot] at hi
    obtain ⟨d, e, hf⟩ := h.registered i hi
    obtain ⟨e', hf'⟩ := hkept.lookup d i e hf
    exact ⟨d, e', hf'⟩
  · intro i
    rw [hkept.readSlot]
    exact h.limit i
  · obtain ⟨base, n, hn, hnonces, hlive⟩ := h.nonces d
    refine ⟨base, n, hn, by rw [hkept.history, hnonces], ?_⟩
    rintro i e hf hi
    rw [hkept.readSlot] at hi ⊢
    -- a slot in use belongs to an entry that was registered before the call
    obtain ⟨d₀, e₀, hf₀⟩ := h.registered i hi
    obtain ⟨e₁, hf₁⟩ := hkept.lookup d₀ i e₀ hf₀
    obtain rfl : d₀ = d := find_index hf₁ hf
    exact hlive i e₀ hf₀ hi

/-- **The run lemma.** -/
theorem counted_run (gcm : Gcm) (P : Ports H) (host : H) (inputs : List (Input H)) :
    Counted (after gcm P host inputs) :=
  server_induction (C := fun _ _ => True) (.start host) (fun _ _ _ _ _ h _ => counted_request h)
    (fun _ _ h _ hkept => counted_kept h hkept) (along_of_forall (fun _ _ => trivial) _ _)

/-! ## The discipline -/

/-- **Counter discipline.**  After every run from boot: the successful seals made for
    an entry from an arming on, up to its next arming, have pairwise distinct nonces and
    are at most `keyUseLimit + 1`; no counter exceeds the limit; and the next request,
    of any client on any entry, moves a counter by one when it is an answered poll of
    that session and not at all when it is aborted. -/
theorem counter_discipline (gcm : Gcm) (P : Ports H) (host : H) (inputs : List (Input H)) :
    (∀ d pre x rest, (after gcm P host inputs).history = pre ++ x :: rest →
      arms d x = true → (∀ y ∈ rest, arms d y = false) →
      (sessionNonces d (x :: rest)).Nodup ∧
        (sessionNonces d (x :: rest)).length ≤ keyUseLimit + 1) ∧
    (∀ i, ((after gcm P host inputs).sod.readSlot i).counter ≤ keyUseLimit) ∧
    ∀ client d req replyMax, CountsOnce d req (after gcm P host inputs).sod
      (step gcm P (after gcm P host inputs) (.request client d req replyMax)).sod
      (exchange gcm P (after gcm P host inputs) client d req replyMax).result := by
  have hcounted := counted_run gcm P host inputs
  refine ⟨?_, hcounted.limit, ?_⟩
  · intro d pre x rest hsplit hx hrest
    obtain ⟨base, n, hn, hnonces, -⟩ := hcounted.nonces d
    rw [hsplit, sinceArming_split hx hrest] at hnonces
    rw [hnonces]
    exact ⟨noncesOf_nodup hn, by simpa [noncesOf] using hn⟩
  · intro client d req replyMax
    rcases request_cases gcm P (after gcm P host inputs) client d req replyMax with
      ⟨hnone, hx, hstep⟩ | ⟨idx, entry, log, r, s', host', hf, hmove, hx, hstep⟩
    · rw [hx, hstep]
      exact ⟨fun idx entry hf => (by rw [hnone] at hf; cases hf), fun i _ => .inl rfl⟩
    · rw [hx, hstep]
      exact countsOnce_move hf hmove

end SofaReadSession
