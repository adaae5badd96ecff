import Sofa.ClientMoves
import Sofa.SecureOd
import Sofa.Lib.Machine

/-! # The nonces of a cyclic write session

    A write poll seals under the counter after the session's, and the counter only
    advances when the transport acknowledges the frame.  A poll whose frame was
    delivered and whose acknowledgement was lost leaves the counter where it was,
    and the next poll seals its own data under the same nonce.

    The headline, `nonce_once_iff`: the session keeps its nonces apart if and only
    if no poll is retried with other data before one was acknowledged.
    `retried_poll` is a run in which a time-out costs the nonce. -/

namespace SofaClientNonce

open ByteBlock SofaConfig SofaAead SofaOd SofaClient SofaClientMoves StateWp Machine

variable {N : Type} {gcm : Gcm} {T : Transport N}

/-! ## Polling runs -/

/-- The arguments of one `fbsec_secure_poll_write`. -/
structure PollCall where
  device : UInt16
  key : Key
  plain : List UInt8

/-- One write poll: its arguments, its result, and the calls made. -/
structure Poll where
  call : PollCall
  result : Except SecpError Tag
  calls : List ClientEvent

/-- A client between two polls of one session. -/
structure Polling (N : Type) where
  session : Session
  net : N
  history : List Poll

/-- One write poll. -/
def pollStep (gcm : Gcm) (T : Transport N) (s : Polling N) (c : PollCall) : Polling N :=
  let r := securePollWrite gcm T c.device c.key s.session c.plain ⟨s.net, []⟩
  { session := r.1.2, net := r.2.net, history := s.history ++ [⟨c, r.1.1, r.2.log⟩] }

/-- What the polls of a run did, from an armed session on. -/
def polled (gcm : Gcm) (T : Transport N) (session : Session) (net : N) (calls : List PollCall) :
    List Poll :=
  (run (pollStep gcm T) ⟨session, net, []⟩ calls).history

/-! ## The property -/

/-- The seals of a call log, in order. -/
def clientSealings (calls : List ClientEvent) : List Sealing :=
  calls.filterMap fun
    | .aeadSeal call plain out => some ⟨call, plain, out⟩
    | _ => none

/-- The seals of a run of polls, in order. -/
def pollSealings (history : List Poll) : List Sealing :=
  history.flatMap fun p => clientSealings p.calls

/-- No two seals share key and nonce and differ in plaintext. -/
def NonceOnce (seals : List Sealing) : Prop :=
  seals.Pairwise fun p q => p.call.key = q.call.key → p.call.nonce = q.call.nonce →
    p.plain = q.plain

instance (seals : List Sealing) : Decidable (NonceOnce seals) :=
  inferInstanceAs (Decidable (seals.Pairwise _))

/-! ## The condition -/

/-- The transport acknowledged the frame of the poll. -/
def Poll.acked (p : Poll) : Bool :=
  p.calls.any fun
    | .write _ _ _ (.ok _) => true
    | _ => false

/-- The polls acknowledged before the `i`-th. -/
def acks (history : List Poll) (i : Nat) : Nat := (history.take i).countP Poll.acked

/-- The session as the `i`-th poll finds it. -/
def sessionAt (session : Session) (history : List Poll) (i : Nat) : Session :=
  { session with counter := acks history i }

/-- A poll is retried with other data: two polls under one key that both reach the
    seal, with different plaintexts, and none acknowledged from the first of them
    up to the second. -/
def Retried (session : Session) (history : List Poll) : Prop :=
  ∃ i j, ∃ (hi : i < history.length) (hj : j < history.length), i < j ∧
    reachesSeal (sessionAt session history i) history[i].call.plain = true ∧
    reachesSeal (sessionAt session history j) history[j].call.plain = true ∧
    history[i].call.key = history[j].call.key ∧
    history[i].call.plain ≠ history[j].call.plain ∧
    ∀ p ∈ (history.take j).drop i, p.acked = false

/-! ## Counting acknowledgements -/

theorem acks_append (h : List Poll) (p : Poll) {i : Nat} (hi : i ≤ h.length) :
    acks (h ++ [p]) i = acks h i := by
  unfold acks
  rw [List.take_append_of_le_length hi]

/-- Two polls see one counter exactly when none between them was acknowledged. -/
theorem acks_eq_iff {h : List Poll} {i j : Nat} (hij : i ≤ j) :
    acks h i = acks h j ↔ ∀ p ∈ (h.take j).drop i, p.acked = false := by
  have hsplit : acks h j = acks h i + ((h.take j).drop i).countP Poll.acked := by
    unfold acks
    conv_lhs => rw [← List.take_append_drop i (h.take j)]
    rw [List.countP_append, List.take_take, Nat.min_eq_left hij]
  rw [hsplit, eq_comm, Nat.add_eq_left, List.countP_eq_zero]
  simp

theorem acks_concat (h : List Poll) (p : Poll) :
    acks (h ++ [p]) (h ++ [p]).length = acks h h.length + p.acked.toNat := by
  unfold acks
  rw [List.take_length, List.take_length, List.countP_append, List.countP_singleton]
  cases p.acked <;> rfl

/-! ## The invariant -/

/-- The seals of one poll, from the session it finds. -/
def SealedBy (T : Transport N) (session : Session) (p : Poll) : Prop :=
  if reachesSeal session p.call.plain then
    ∃ out, clientSealings p.calls =
      [⟨nextWriteCall T p.call.device p.call.key session, p.call.plain, out⟩]
  else clientSealings p.calls = []

/-- The session has counted the acknowledgements, and every poll sealed under the
    session it found. -/
structure Tracked (T : Transport N) (session : Session) (s : Polling N) : Prop where
  counted : s.session = sessionAt session s.history s.history.length
  budget : acks s.history s.history.length ≤ keyUseLimit
  each : ∀ i (hi : i < s.history.length),
    SealedBy T (sessionAt session s.history i) s.history[i]

theorem Tracked.start {session : Session} (hc : session.counter = 0) (net : N) :
    Tracked T session ⟨session, net, []⟩ where
  counted := by simp [sessionAt, acks, ← hc]
  budget := Nat.zero_le _
  each := by simp

/-- What one poll seals, and how it moves the session. -/
theorem sealedBy_of_outcome {sess sess' : Session} {net net' : N} {p : Poll}
    (h : PollWriteOutcome gcm T p.call.device p.call.key sess p.call.plain net p.calls p.result
      sess' net') :
    SealedBy T sess p ∧ sess' = { sess with counter := sess.counter + p.acked.toNat } ∧
      sess'.counter ≤ max sess.counter keyUseLimit := by
  obtain ⟨⟨device, key, plain⟩, result, log⟩ := p
  simp only at h
  cases h with
  | refused hno => simp [SealedBy, hno, clientSealings, Poll.acked]
  | unsealed reached sealed => simp [SealedBy, reached, clientSealings, Poll.acked]
  | undelivered reached sealed sent => simp [SealedBy, reached, clientSealings, Poll.acked]
  | acknowledged reached sealed sent =>
      have hlim : sess.counter < keyUseLimit := by
        simp only [reachesSeal, Bool.and_eq_true, decide_eq_true_eq] at reached
        exact reached.2
      refine ⟨by simp [SealedBy, reached, clientSealings], by simp [Poll.acked], ?_⟩
      simp only
      omega

/-- One step of the run, as a poll with its outcome. -/
theorem pollStep_outcome (gcm : Gcm) (T : Transport N) (s : Polling N) (c : PollCall) :
    ∃ p sess' net', pollStep gcm T s c = ⟨sess', net', s.history ++ [p]⟩ ∧
      PollWriteOutcome gcm T p.call.device p.call.key s.session p.call.plain s.net p.calls p.result
        sess' net' := by
  obtain ⟨log, hlog, hout⟩ := pollWrite_outcome gcm T c.device c.key s.session c.plain
    ⟨s.net, []⟩
  rw [List.nil_append] at hlog
  rw [← hlog] at hout
  exact ⟨_, _, _, rfl, hout⟩

/-- **One poll keeps the invariant.** -/
theorem Tracked.step {session : Session} {s : Polling N} (c : PollCall)
    (h : Tracked T session s) : Tracked T session (pollStep gcm T s c) := by
  obtain ⟨p, sess', net', hstep, hout⟩ := pollStep_outcome gcm T s c
  obtain ⟨hsealed, hsess, hlim⟩ := sealedBy_of_outcome hout
  rw [hstep]
  rw [h.counted] at hsealed hsess hlim
  refine ⟨?_, ?_, ?_⟩
  · simp only [sessionAt, acks_concat, hsess]
  · rw [hsess] at hlim
    simp only [sessionAt] at hlim
    have hbudget := h.budget
    simp only [acks_concat]
    omega
  · intro i hi
    simp only [List.length_append, List.length_singleton] at hi
    by_cases hlast : i = s.history.length
    · subst hlast
      simp only [sessionAt, acks_append _ _ (Nat.le_refl _), List.getElem_concat_length]
      exact hsealed
    · have hlt : i < s.history.length := by omega
      simp only [sessionAt, acks_append _ _ (Nat.le_of_lt hlt), List.getElem_append_left hlt]
      exact h.each i hlt

theorem tracked_run {session : Session} (hc : session.counter = 0) (net : N)
    (calls : List PollCall) :
    Tracked T session (run (pollStep gcm T) ⟨session, net, []⟩ calls) :=
  run_induction (P := fun _ _ => True) (fun _ c h _ => h.step c) (Tracked.start hc net)
    (along_of_forall (fun _ _ => trivial) _ _)

/-! ## The seals of a run -/

/-- Both sides build the nonce of a frame the same way. -/
theorem sessionBuildNonce_eq (sess : Session) (counter : Nat) :
    sessionBuildNonce sess counter = buildSessionNonce sess.nonceBase counter := rfl

theorem SealedBy.mem {session : Session} {p : Poll} (h : SealedBy T session p) {q : Sealing}
    (hq : q ∈ clientSealings p.calls) :
    reachesSeal session p.call.plain = true ∧ q.plain = p.call.plain ∧ q.call.key = p.call.key ∧
      q.call.nonce = buildSessionNonce session.nonceBase (session.counter + 1) := by
  unfold SealedBy at h
  split at h
  · rename_i hreach
    obtain ⟨out, hone⟩ := h
    rw [hone, List.mem_singleton] at hq
    subst hq
    exact ⟨hreach, rfl, rfl, sessionBuildNonce_eq _ _⟩
  · rw [h] at hq
    cases hq

theorem SealedBy.exists {session : Session} {p : Poll} (h : SealedBy T session p)
    (hreach : reachesSeal session p.call.plain = true) : ∃ q, q ∈ clientSealings p.calls := by
  rw [SealedBy, if_pos hreach] at h
  obtain ⟨out, hone⟩ := h
  exact ⟨_, by rw [hone]; exact List.mem_singleton_self _⟩

theorem SealedBy.pairwise {session : Session} {p : Poll} (h : SealedBy T session p)
    (R : Sealing → Sealing → Prop) : (clientSealings p.calls).Pairwise R := by
  unfold SealedBy at h
  split at h
  · obtain ⟨out, hone⟩ := h
    rw [hone]
    exact List.pairwise_singleton _ _
  · rw [h]
    exact List.Pairwise.nil

/-- A poll that reaches the seal still has budget. -/
theorem budget_of_reachesSeal {session : Session} {plain : List UInt8}
    (h : reachesSeal session plain = true) : session.counter + 1 ≤ keyUseLimit := by
  simp only [reachesSeal, Bool.and_eq_true, decide_eq_true_eq] at h
  exact h.2

/-- The polls of a tracked run keep their nonces apart exactly when none is retried
    with other data. -/
theorem Tracked.nonceOnce_iff {session : Session} {s : Polling N} (h : Tracked T session s) :
    NonceOnce (pollSealings s.history) ↔ ¬ Retried session s.history := by
  unfold NonceOnce pollSealings
  rw [List.pairwise_flatMap, List.pairwise_iff_getElem]
  constructor
  · rintro ⟨-, hpair⟩ ⟨i, j, hi, hj, hij, hri, hrj, hkey, hplain, hnone⟩
    obtain ⟨p, hp⟩ := (h.each i hi).exists hri
    obtain ⟨q, hq⟩ := (h.each j hj).exists hrj
    obtain ⟨-, hpp, hpk, hpn⟩ := (h.each i hi).mem hp
    obtain ⟨-, hqp, hqk, hqn⟩ := (h.each j hj).mem hq
    have hcount := (acks_eq_iff (Nat.le_of_lt hij)).mpr hnone
    have hnonce : p.call.nonce = q.call.nonce := by
      rw [hpn, hqn]
      simp only [sessionAt, hcount]
    have hsame := hpair i j hi hj hij p hp q hq (by rw [hpk, hqk, hkey]) hnonce
    rw [hpp, hqp] at hsame
    exact hplain hsame
  · intro hretry
    refine ⟨?_, ?_⟩
    · intro p hp
      obtain ⟨i, hi, rfl⟩ := List.getElem_of_mem hp
      exact (h.each i hi).pairwise _
    · intro i j hi hj hij p hp q hq hkey hnonce
      obtain ⟨hri, hpp, hpk, hpn⟩ := (h.each i hi).mem hp
      obtain ⟨hrj, hqp, hqk, hqn⟩ := (h.each j hj).mem hq
      rw [hpn, hqn] at hnonce
      have hcount := buildSessionNonce_inj _ _ _ (budget_of_reachesSeal hri)
        (budget_of_reachesSeal hrj) hnonce
      rw [hpk, hqk] at hkey
      by_contra hplain
      rw [hpp, hqp] at hplain
      refine hretry ⟨i, j, hi, hj, hij, hri, hrj, hkey, hplain, ?_⟩
      exact (acks_eq_iff (Nat.le_of_lt hij)).mp (Nat.succ.inj hcount)

/-! ## The arming write -/

/-- An armed session starts at counter 0, and its arming sealed once, under the
    nonce base. -/
theorem armed_sealing {device : UInt16} {dataId : UInt32} {key : Key} {keyId : UInt8}
    {plain : List UInt8} {net : N} {session : Session} {w : ClientWorld N}
    (harm : secureWriteArmed gcm T device dataId key keyId plain ⟨net, []⟩ = (.ok session, w)) :
    session.counter = 0 ∧
      ∃ q : Sealing, q.call.nonce = session.nonceBase ∧ clientSealings w.log = [q] := by
  have hwp : wp (secureWriteArmed gcm T device dataId key keyId plain)
      (fun r w => r = .ok session → session.counter = 0 ∧
        ∃ q : Sealing, q.call.nonce = session.nonceBase ∧ clientSealings w.log = [q])
      ⟨net, []⟩ := by
    unfold secureWriteArmed
    simp only [wp_ite, wp_pure, wp_bind]
    refine ⟨by simp, fun _ => ⟨by simp, fun _ => ?_⟩⟩
    refine wp_mono (writeFlow_outcome _) ?_
    rintro r w ⟨log, hlog, hout⟩
    rw [List.nil_append] at hlog
    cases hout with
    | failed idle => intro h; cases h
    | unsealed got draw sealed => intro h; cases h
    | undelivered got draw sealed sent => intro h; cases h
    | acknowledged got size draw sealed sent =>
        simp only [wp_pure, hlog]
        rintro ⟨⟩
        exact ⟨rfl, _, rfl, rfl⟩
  exact wp_run hwp harm rfl

/-! ## The headline -/

/-- **Nonces of a write session, exactly.**  From an arming that succeeds, through
    any polls with any answers of the transport, the seals of the session keep
    their nonces apart if and only if no poll is retried with other data. -/
theorem nonce_once_iff (gcm : Gcm) (T : Transport N) (device : UInt16) (dataId : UInt32)
    (key : Key) (keyId : UInt8) (plain : List UInt8) (net : N) (session : Session)
    (w : ClientWorld N)
    (harm : secureWriteArmed gcm T device dataId key keyId plain ⟨net, []⟩ = (.ok session, w))
    (calls : List PollCall) :
    NonceOnce (clientSealings w.log ++ pollSealings (polled gcm T session w.net calls)) ↔
      ¬ Retried session (polled gcm T session w.net calls) := by
  obtain ⟨hzero, q, hq, hone⟩ := armed_sealing harm
  have htracked : Tracked T session (run (pollStep gcm T) ⟨session, w.net, []⟩ calls) :=
    tracked_run hzero w.net calls
  unfold polled
  rw [← htracked.nonceOnce_iff, hone, NonceOnce, List.singleton_append, List.pairwise_cons]
  refine ⟨fun h => h.2, fun h => ⟨?_, h⟩⟩
  -- a poll never seals under counter 0
  intro p hp hkey hnonce
  obtain ⟨x, hx, hpx⟩ := List.mem_flatMap.mp hp
  obtain ⟨i, hi, rfl⟩ := List.getElem_of_mem hx
  obtain ⟨hreach, -, -, hpn⟩ := (htracked.each i hi).mem hpx
  have hbudget := budget_of_reachesSeal hreach
  have hbase : q.call.nonce = buildSessionNonce session.nonceBase 0 := by
    rw [hq, buildSessionNonce_zero]
  rw [hbase, hpn] at hnonce
  have hbad := buildSessionNonce_inj _ _ _ (Nat.zero_le _) hbudget hnonce
  omega

/-! ## Worked runs -/

/-- A transport that answers every challenge and gives the listed answers to the
    frames written through it, `ok` when the list is spent. -/
def sampleTransport : Transport (List (Except SecpError Unit)) where
  clientId := 20
  random net := (some (sampleRand 5), net)
  read _ _ _ cap net := (if aeadRandSize ≤ cap then .ok (toList (sampleRand 9)) else .error .bufsize,
    net)
  write _ _ _ net := (net.headD (.ok ()), net.tail)
  fits := by
    intro device dataId body cap net reply h
    simp only at h
    split at h
    · cases h
      simpa using ‹aeadRandSize ≤ cap›
    · cases h

/-- The session that the sample transport arms, and what is left behind it. -/
def sampleArming (answers : List (Except SecpError Unit)) :
    Except SecpError Session × ClientWorld (List (Except SecpError Unit)) :=
  secureWriteArmed sampleGcm sampleTransport 1 0x20100000 sampleKey 0x81 [0, 0, 0, 1] ⟨answers, []⟩

/-- The armed session; the arming succeeds when the first answer is `ok`. -/
def sampleWriteSession (answers : List (Except SecpError Unit)) : Session :=
  match (sampleArming answers).1 with
  | .ok session => session
  | .error _ => {}

/-- The second value of a polling loop, then the third. -/
def samplePolls : List PollCall := [⟨1, sampleKey, [0, 0, 0, 2]⟩, ⟨1, sampleKey, [0, 0, 0, 3]⟩]

/-- `nonce_once_iff` on a session in which every frame is acknowledged. -/
theorem samplePolls_once :
    NonceOnce (clientSealings (sampleArming []).2.log ++ pollSealings (polled sampleGcm
        sampleTransport (sampleWriteSession []) (sampleArming []).2.net samplePolls)) ↔
      ¬ Retried (sampleWriteSession []) (polled sampleGcm sampleTransport (sampleWriteSession [])
        (sampleArming []).2.net samplePolls) :=
  nonce_once_iff sampleGcm sampleTransport 1 0x20100000 sampleKey 0x81 [0, 0, 0, 1] []
    (sampleWriteSession []) _ (Prod.ext rfl rfl) samplePolls

/-- **A reused nonce.**  The arming frame is acknowledged, the first poll times out,
    and the second seals its own value under the nonce of the first. -/
theorem retried_poll :
    (sampleArming [.ok (), .error .timeout]).1 =
        .ok (sampleWriteSession [.ok (), .error .timeout]) ∧
      ¬ NonceOnce (clientSealings (sampleArming [.ok (), .error .timeout]).2.log ++
        pollSealings (polled sampleGcm sampleTransport
          (sampleWriteSession [.ok (), .error .timeout])
          (sampleArming [.ok (), .error .timeout]).2.net samplePolls)) :=
  ⟨rfl, by decide +kernel⟩

end SofaClientNonce
