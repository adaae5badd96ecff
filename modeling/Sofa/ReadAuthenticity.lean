import Sofa.ClientNonce
import Sofa.Writes

/-! # What an accepted read stands for

    The transport answers with whatever bytes it likes.  A client that makes any
    sequence of calls through it accepts a reply only when the tag verifies, and the
    AAD and the nonce it verifies under hold everything the client chose itself: the
    key, both device ids, the data id, the key id byte, the direction, and the random
    drawn for this read or the counter of this poll.

    The headline, `reads_authentic`: over an ideal AEAD the bytes a read returns are
    the plaintext of a seal made for that very read; while the client's randoms do not
    repeat no seal is accepted by two reads, and never by two polls of one session. -/

namespace SofaReadAuthenticity

open ByteBlock SofaConfig SofaAead SofaClient SofaClientMoves SofaClientNonce StateWp Machine

open SofaOd (buildSessionNonce buildSessionNonce_inj)
open SofaWrites (Frame)

variable {N : Type} {gcm : Gcm} {T : Transport N}

/-! ## Client runs -/

/-- A call of the application with its arguments.  A poll names its session by the
    place the session has among those the client holds. -/
inductive ClientOp where
  | read (device : UInt16) (dataId : UInt32) (key : Key) (keyId : UInt8) (bufSize : Nat)
  | readArmed (device : UInt16) (dataId : UInt32) (key : Key) (keyId : UInt8) (bufSize : Nat)
  | write (device : UInt16) (dataId : UInt32) (key : Key) (keyId : UInt8) (plain : List UInt8)
  | writeArmed (device : UInt16) (dataId : UInt32) (key : Key) (keyId : UInt8)
      (plain : List UInt8)
  | pollRead (session : Nat) (device : UInt16) (key : Key) (plainMax : Nat)
  | pollWrite (session : Nat) (device : UInt16) (key : Key) (plain : List UInt8)

/-- The device the call addresses. -/
def ClientOp.device : ClientOp → UInt16
  | .read device .. | .readArmed device .. | .write device .. | .writeArmed device .. => device
  | .pollRead _ device .. | .pollWrite _ device .. => device

/-- One call: its arguments, the session it found (the empty one for a call that takes
    none), the bytes a successful read returned, and the calls it made. -/
structure Done where
  op : ClientOp
  session : Session
  data : Option (List UInt8)
  calls : List ClientEvent

/-- A client between two calls. -/
structure Client (N : Type) where
  net : N
  sessions : List Session
  history : List Done

/-- One call of the client.  A poll on a place that holds no session finds the empty
    one, which is not in use. -/
def clientStep (gcm : Gcm) (T : Transport N) (s : Client N) (op : ClientOp) : Client N :=
  match op with
  | .read device dataId key keyId bufSize =>
      let r := secureRead gcm T device dataId key keyId bufSize ⟨s.net, []⟩
      ⟨r.2.net, s.sessions, s.history ++ [⟨op, {}, r.1.toOption, r.2.log⟩]⟩
  | .readArmed device dataId key keyId bufSize =>
      let r := secureReadArmed gcm T device dataId key keyId bufSize ⟨s.net, []⟩
      ⟨r.2.net, s.sessions ++ (r.1.toOption.map (·.2)).toList,
        s.history ++ [⟨op, {}, r.1.toOption.map (·.1), r.2.log⟩]⟩
  | .write device dataId key keyId plain =>
      let r := secureWrite gcm T device dataId key keyId plain ⟨s.net, []⟩
      ⟨r.2.net, s.sessions, s.history ++ [⟨op, {}, none, r.2.log⟩]⟩
  | .writeArmed device dataId key keyId plain =>
      let r := secureWriteArmed gcm T device dataId key keyId plain ⟨s.net, []⟩
      ⟨r.2.net, s.sessions ++ r.1.toOption.toList, s.history ++ [⟨op, {}, none, r.2.log⟩]⟩
  | .pollRead i device key plainMax =>
      let session := s.sessions.getD i {}
      let r := securePollRead gcm T device key session plainMax ⟨s.net, []⟩
      ⟨r.2.net, s.sessions.set i r.1.2,
        s.history ++ [⟨op, session, r.1.1.toOption.map (·.1), r.2.log⟩]⟩
  | .pollWrite i device key plain =>
      let session := s.sessions.getD i {}
      let r := securePollWrite gcm T device key session plain ⟨s.net, []⟩
      ⟨r.2.net, s.sessions.set i r.1.2, s.history ++ [⟨op, session, none, r.2.log⟩]⟩

/-- What the client did, from a client that holds some sessions on. -/
def done (gcm : Gcm) (T : Transport N) (net : N) (sessions : List Session)
    (ops : List ClientOp) : List Done :=
  (run (clientStep gcm T) ⟨net, sessions, []⟩ ops).history

/-! ## Reading a call log -/

/-- The randoms a call drew. -/
def clientDrawn (calls : List ClientEvent) : List Rand :=
  calls.filterMap fun
    | .random r => r
    | _ => none

/-- The frames that verified in a call. -/
def clientOpened (calls : List ClientEvent) : List Frame :=
  calls.filterMap fun
    | .aeadOpen call cipher tag (some _) => some ⟨call, cipher, tag⟩
    | _ => none

/-- All randoms of the client, in order. -/
def clientRandoms (history : List Done) : List Rand := history.flatMap fun x => clientDrawn x.calls

/-- The ideal AEAD, over one history: every frame that verified is the frame of some
    seal. -/
def ClientJustified (seals : List Seal) (history : List Done) : Prop :=
  ∀ x ∈ history, ∀ f ∈ clientOpened x.calls, ∃ σ ∈ seals, σ.Justifies f.call f.cipher f.tag

instance (seals : List Seal) (history : List Done) : Decidable (ClientJustified seals history) :=
  inferInstanceAs (Decidable (∀ x ∈ history, ∀ f ∈ clientOpened x.calls,
    ∃ σ ∈ seals, σ.Justifies f.call f.cipher f.tag))

/-- The device, the data id, the key and the key id byte of a call that reads through a
    challenge.  An arming read puts the cyclic bit on the wire. -/
def ClientOp.challenged : ClientOp → Option (UInt16 × UInt32 × Key × UInt8)
  | .read device dataId key keyId _ => some (device, dataId, key, keyId)
  | .readArmed device dataId key keyId _ => some (device, dataId, key, armKid keyId)
  | _ => none

/-- The session of an accepted read poll. -/
def Done.polled (x : Done) : Option Nat :=
  match x.op, x.data with
  | .pollRead i _ _ _, some _ => some i
  | _, _ => none

/-- The call accepted a frame of this seal. -/
def Done.AcceptedFrom (x : Done) (σ : Seal) : Prop :=
  ∃ f ∈ clientOpened x.calls, σ.Justifies f.call f.cipher f.tag

/-! ## The law -/

/-- The seal behind an accepted response: the selected key, the addressed device and
    this client, the data id, the key id byte, the read direction, the random this call
    drew, and whatever server random the reply carried. -/
def ResponseSeal (T : Transport N) (seals : List Seal) (device : UInt16) (dataId : UInt32)
    (key : Key) (keyId : UInt8) (calls : List ClientEvent) (data : List UInt8) : Prop :=
  ∃ σ ∈ seals, σ.plain = data ∧ ∃ cr sr, clientDrawn calls = [cr] ∧
    σ.call = { key := key, nonce := aeadXorNonce cr sr, direction := dirReadResponse,
               keyId := keyId, serverDev := device, clientDev := T.clientId, dataId := dataId,
               randoms := some (cr, sr) }

/-- The seal behind an accepted poll: the same, for the session polled, under its nonce
    base and the counter after its own. -/
def PollSeal (T : Transport N) (seals : List Seal) (device : UInt16) (key : Key)
    (session : Session) (data : List UInt8) : Prop :=
  ∃ σ ∈ seals, σ.plain = data ∧
    σ.call = { key := key, nonce := buildSessionNonce session.nonceBase (session.counter + 1),
               direction := dirReadPollResponse, keyId := session.keyId, serverDev := device,
               clientDev := T.clientId, dataId := session.dataId, randoms := none }

/-- What holds of the reads of a client run. -/
structure ReadLaw (T : Transport N) (seals : List Seal) (history : List Done) : Prop where
  /-- An accepted response was sealed for this very call. -/
  response : ∀ x ∈ history, ∀ device dataId key keyId data,
    x.op.challenged = some (device, dataId, key, keyId) → x.data = some data →
    ResponseSeal T seals device dataId key keyId x.calls data
  /-- So was an accepted poll. -/
  poll : ∀ x ∈ history, ∀ i device key plainMax data,
    x.op = .pollRead i device key plainMax → x.data = some data →
    PollSeal T seals device key x.session data
  /-- No seal is accepted by two reads. -/
  onceRead : (clientRandoms history).Nodup → history.Pairwise fun x y =>
    x.op.challenged.isSome → y.op.challenged.isSome → x.data.isSome → y.data.isSome →
    ∀ σ ∈ seals, ¬ (x.AcceptedFrom σ ∧ y.AcceptedFrom σ)
  /-- No seal is accepted by two polls of one session. -/
  oncePoll : history.Pairwise fun x y => ∀ i, x.polled = some i → y.polled = some i →
    ∀ σ ∈ seals, ¬ (x.AcceptedFrom σ ∧ y.AcceptedFrom σ)

/-! ## What one call verified -/

/-- The response that a challenged read returned verified under the random the call
    drew, and no other frame did. -/
def Answered (gcm : Gcm) (T : Transport N) (device : UInt16) (dataId : UInt32) (key : Key)
    (kid : UInt8) (calls : List ClientEvent) (data : List UInt8) : Prop :=
  ∃ cr sr cipher tag, clientDrawn calls = [cr] ∧
    clientOpened calls = [⟨responseCall T device dataId key kid cr sr, cipher, tag⟩] ∧
    aeadOpen gcm (responseCall T device dataId key kid cr sr) cipher tag = some data

/-- The reply that a poll returned verified under the counter after the session's. -/
def Polled (gcm : Gcm) (T : Transport N) (device : UInt16) (key : Key) (session : Session)
    (calls : List ClientEvent) (data : List UInt8) : Prop :=
  session.inUse = true ∧ session.counter < keyUseLimit ∧ ∃ cipher tag,
    clientOpened calls = [⟨nextReadCall T device key session, cipher, tag⟩] ∧
    aeadOpen gcm (nextReadCall T device key session) cipher tag = some data

theorem answered_of_outcome {device : UInt16} {dataId : UInt32} {key : Key} {kid : UInt8}
    {net net' : N} {log : List ClientEvent} {plain : List UInt8} {nonce : Nonce}
    (h : ReadOutcome gcm T device dataId key kid net log (.ok (plain, nonce)) net') :
    Answered gcm T device dataId key kid log plain := by
  cases h with
  | verified draw sent got long opened => exact ⟨_, _, _, _, rfl, rfl, opened⟩

/-- `fbsec_secure_read` returns what was answered. -/
theorem secureRead_answered (gcm : Gcm) (T : Transport N) (device : UInt16) (dataId : UInt32) (key : Key) (keyId : UInt8)
    (bufSize : Nat) (net : N) :
    wp (secureRead gcm T device dataId key keyId bufSize)
      (fun r w => ∀ data, r.toOption = some data →
        Answered gcm T device dataId key keyId w.log data) ⟨net, []⟩ := by
  unfold secureRead
  simp only [wp_ite, wp_pure, wp_bind]
  refine ⟨fun _ data h => (by cases h), fun _ => ?_⟩
  refine wp_mono (readFlow_outcome _) ?_
  rintro r w ⟨log, hlog, hout⟩
  rw [List.nil_append] at hlog
  cases r with
  | error e =>
      intro data h
      cases h
  | ok p =>
      rintro data ⟨⟩
      show Answered gcm T device dataId key keyId w.log p.1
      rw [hlog]
      exact answered_of_outcome hout

/-- `fbsec_secure_read_armed` too, under the key id byte it put on the wire. -/
theorem secureReadArmed_answered (gcm : Gcm) (T : Transport N) (device : UInt16) (dataId : UInt32) (key : Key) (keyId : UInt8)
    (bufSize : Nat) (net : N) :
    wp (secureReadArmed gcm T device dataId key keyId bufSize)
      (fun r w => ∀ data, r.toOption.map (·.1) = some data →
        Answered gcm T device dataId key (armKid keyId) w.log data) ⟨net, []⟩ := by
  unfold secureReadArmed
  simp only [wp_ite, wp_pure, wp_bind]
  refine ⟨fun _ data h => (by cases h), fun _ => ?_⟩
  refine wp_mono (readFlow_outcome _) ?_
  rintro r w ⟨log, hlog, hout⟩
  rw [List.nil_append] at hlog
  cases r with
  | error e =>
      intro data h
      cases h
  | ok p =>
      rintro data ⟨⟩
      show Answered gcm T device dataId key (armKid keyId) w.log p.1
      rw [hlog]
      exact answered_of_outcome hout

/-- `fbsec_secure_poll_read` returns what the poll verified and counts it, or leaves the
    session. -/
theorem securePollRead_polled (gcm : Gcm) (T : Transport N) (device : UInt16) (key : Key) (session : Session)
    (plainMax : Nat) (net : N) :
    wp (securePollRead gcm T device key session plainMax)
      (fun r w => (r.1.toOption.map (·.1) = none ∧ r.2 = session) ∨
        ∃ data, r.1.toOption.map (·.1) = some data ∧
          Polled gcm T device key session w.log data ∧
          r.2 = { session with counter := session.counter + 1 }) ⟨net, []⟩ := by
  refine wp_mono (pollRead_outcome _) ?_
  rintro ⟨r, session'⟩ w ⟨log, hlog, hout⟩
  rw [List.nil_append] at hlog
  simp only [hlog]
  cases hout with
  | refused => exact .inl ⟨rfl, rfl⟩
  | failed inUse budget got idle => exact .inl ⟨rfl, rfl⟩
  | verified inUse budget got long head opened =>
      exact .inr ⟨_, rfl, ⟨inUse, budget, _, _, rfl, opened⟩, rfl⟩

/-- `fbsec_secure_poll_write` only ever advances the counter. -/
theorem securePollWrite_onward (gcm : Gcm) (T : Transport N) (device : UInt16) (key : Key) (session : Session)
    (plain : List UInt8) (net : N) :
    wp (securePollWrite gcm T device key session plain)
      (fun r _ => r.2.nonceBase = session.nonceBase ∧ session.counter ≤ r.2.counter)
      ⟨net, []⟩ := by
  refine wp_mono (pollWrite_outcome gcm T device key session plain _) ?_
  rintro ⟨r, session'⟩ w ⟨log, -, hout⟩
  cases hout with
  | acknowledged reached sealed sent => exact ⟨rfl, Nat.le_succ _⟩
  | _ => exact ⟨rfl, Nat.le_refl _⟩

/-! ## One call -/

/-- What a call that returned data had verified. -/
structure Verified (gcm : Gcm) (T : Transport N) (x : Done) : Prop where
  response : ∀ device dataId key keyId data,
    x.op.challenged = some (device, dataId, key, keyId) → x.data = some data →
    Answered gcm T device dataId key keyId x.calls data
  poll : ∀ i device key plainMax data,
    x.op = .pollRead i device key plainMax → x.data = some data →
    Polled gcm T device key x.session x.calls data

/-- The session is the one it was, with a counter that has not gone back. -/
def Onward (session session' : Session) : Prop :=
  session'.nonceBase = session.nonceBase ∧ session.counter ≤ session'.counter

theorem Onward.refl (session : Session) : Onward session session := ⟨rfl, Nat.le_refl _⟩

/-- What a call does to the sessions held: each goes on, and an accepted poll counts. -/
structure Advanced (sessions sessions' : List Session) (x : Done) : Prop where
  onward : ∀ (i : Nat) session, sessions[i]? = some session →
    ∃ session', sessions'[i]? = some session' ∧ Onward session session'
  counted : ∀ (i : Nat), x.polled = some i → sessions[i]? = some x.session ∧
    sessions'[i]? = some { x.session with counter := x.session.counter + 1 }

/-- A call that polls nothing only adds sessions. -/
theorem Advanced.append {sessions armed : List Session} {x : Done} (h : x.polled = none) :
    Advanced sessions (sessions ++ armed) x where
  onward i session hi := by
    refine ⟨session, ?_, .refl _⟩
    obtain ⟨hlt, -⟩ := List.getElem?_eq_some_iff.mp hi
    rw [List.getElem?_append_left hlt, hi]
  counted i hi := by
    rw [h] at hi
    cases hi

/-- A poll only touches its own session. -/
theorem Advanced.set {sessions : List Session} {x : Done} {i : Nat} {session' : Session}
    (honward : ∀ session, sessions[i]? = some session → Onward session session')
    (hcounted : ∀ j, x.polled = some j → j = i ∧ sessions[i]? = some x.session ∧
      session' = { x.session with counter := x.session.counter + 1 }) :
    Advanced sessions (sessions.set i session') x where
  onward j session hj := by
    obtain ⟨hlt, -⟩ := List.getElem?_eq_some_iff.mp hj
    by_cases hij : i = j
    · subst hij
      exact ⟨session', List.getElem?_set_self hlt, honward session hj⟩
    · exact ⟨session, by rw [List.getElem?_set_ne hij, hj], .refl _⟩
  counted j hj := by
    obtain ⟨rfl, hsome, rfl⟩ := hcounted j hj
    obtain ⟨hlt, -⟩ := List.getElem?_eq_some_iff.mp hsome
    exact ⟨hsome, List.getElem?_set_self hlt⟩

/-- The session a poll finds is the one held, when it is in use. -/
theorem getD_inUse {sessions : List Session} {i : Nat} (h : (sessions.getD i {}).inUse = true) :
    sessions[i]? = some (sessions.getD i {}) := by
  rw [List.getD_eq_getElem?_getD] at h ⊢
  cases hget : sessions[i]? with
  | none =>
      rw [hget] at h
      cases h
  | some session => rfl

/-- **One call** verified what it returned, and moved the sessions on. -/
theorem clientStep_done (gcm : Gcm) (T : Transport N) (s : Client N) (op : ClientOp) :
    ∃ x net' sessions', clientStep gcm T s op = ⟨net', sessions', s.history ++ [x]⟩ ∧
      x.op = op ∧ Verified gcm T x ∧ Advanced s.sessions sessions' x := by
  cases op with
  | read device dataId key keyId bufSize =>
      have hread := secureRead_answered gcm T device dataId key keyId bufSize s.net
      refine ⟨_, _, s.sessions ++ [], by rw [List.append_nil]; rfl, rfl, ⟨?_, ?_⟩, .append rfl⟩
      · rintro _ _ _ _ data ⟨⟩ hdata
        exact hread data hdata
      · rintro i _ _ _ data ⟨⟩
  | readArmed device dataId key keyId bufSize =>
      have hread := secureReadArmed_answered gcm T device dataId key keyId bufSize
        s.net
      refine ⟨_, _, _, rfl, rfl, ⟨?_, ?_⟩, .append rfl⟩
      · rintro _ _ _ _ data ⟨⟩ hdata
        exact hread data hdata
      · rintro i _ _ _ data ⟨⟩
  | write device dataId key keyId plain =>
      refine ⟨_, _, s.sessions ++ [], by rw [List.append_nil]; rfl, rfl, ⟨?_, ?_⟩, .append rfl⟩
      · rintro _ _ _ _ data ⟨⟩
      · rintro i _ _ _ data ⟨⟩
  | writeArmed device dataId key keyId plain =>
      refine ⟨_, _, _, rfl, rfl, ⟨?_, ?_⟩, .append rfl⟩
      · rintro _ _ _ _ data ⟨⟩
      · rintro i _ _ _ data ⟨⟩
  | pollRead i device key plainMax =>
      have hpoll := securePollRead_polled gcm T device key (s.sessions.getD i {})
        plainMax s.net
      refine ⟨_, _, _, rfl, rfl, ⟨?_, ?_⟩, .set ?_ ?_⟩
      · rintro _ _ _ _ data ⟨⟩
      · rintro _ _ _ _ data ⟨⟩ hdata
        rcases hpoll with ⟨hnone, -⟩ | ⟨data', hsome, hpolled, -⟩
        · rw [hnone] at hdata
          cases hdata
        · rw [hsome] at hdata
          cases hdata
          exact hpolled
      · intro session hsession
        rw [List.getD_eq_getElem?_getD, hsession, Option.getD_some] at hpoll ⊢
        rcases hpoll with ⟨-, hsame⟩ | ⟨-, -, -, hnext⟩
        · rw [hsame]
          exact .refl _
        · rw [hnext]
          exact ⟨rfl, Nat.le_succ _⟩
      · intro j hj
        rcases hpoll with ⟨hnone, -⟩ | ⟨data', hsome, ⟨hinUse, -⟩, hnext⟩
        · simp only [Done.polled, hnone] at hj
          cases hj
        · simp only [Done.polled, hsome] at hj
          cases hj
          exact ⟨rfl, getD_inUse hinUse, hnext⟩
  | pollWrite i device key plain =>
      have hpoll := securePollWrite_onward gcm T device key (s.sessions.getD i {})
        plain s.net
      refine ⟨_, _, _, rfl, rfl, ⟨?_, ?_⟩, .set ?_ ?_⟩
      · rintro _ _ _ _ data ⟨⟩
      · rintro _ _ _ _ data ⟨⟩
      · intro session hsession
        rw [List.getD_eq_getElem?_getD, hsession, Option.getD_some] at hpoll ⊢
        exact hpoll
      · rintro j ⟨⟩

/-! ## The invariant -/

/-- What holds between any two calls. -/
structure ReadsInv (gcm : Gcm) (T : Transport N) (s : Client N) : Prop where
  devices : ∀ x ∈ s.history, x.op.device.toNat < 256
  verified : ∀ x ∈ s.history, Verified gcm T x
  /-- A session is past every poll it has accepted. -/
  behind : ∀ x ∈ s.history, ∀ i, x.polled = some i → ∃ session, s.sessions[i]? = some session ∧
    session.nonceBase = x.session.nonceBase ∧ x.session.counter < session.counter
  ordered : s.history.Pairwise fun x y => ∀ i, x.polled = some i → y.polled = some i →
    y.session.nonceBase = x.session.nonceBase ∧ x.session.counter < y.session.counter

theorem ReadsInv.start (gcm : Gcm) (T : Transport N) (net : N) (sessions : List Session) :
    ReadsInv gcm T ⟨net, sessions, []⟩ :=
  ⟨by simp, by simp, by simp, .nil⟩

/-- **One call keeps the invariant.** -/
theorem ReadsInv.step {s : Client N} {op : ClientOp} (h : ReadsInv gcm T s)
    (hdev : op.device.toNat < 256) : ReadsInv gcm T (clientStep gcm T s op) := by
  obtain ⟨x, net', sessions', hstep, hop, hverified, hadv⟩ :=
    clientStep_done gcm T s op
  rw [hstep]
  refine ⟨?_, ?_, ?_, ?_⟩
  · intro y hy
    rcases List.mem_append.mp hy with hy | hy
    · exact h.devices y hy
    · obtain rfl := List.mem_singleton.mp hy
      rw [hop]
      exact hdev
  · intro y hy
    rcases List.mem_append.mp hy with hy | hy
    · exact h.verified y hy
    · obtain rfl := List.mem_singleton.mp hy
      exact hverified
  · intro y hy i hi
    rcases List.mem_append.mp hy with hy | hy
    · obtain ⟨session, hsession, hbase, hlt⟩ := h.behind y hy i hi
      obtain ⟨session', hsession', hbase', hle⟩ := hadv.onward i session hsession
      exact ⟨session', hsession', hbase'.trans hbase, Nat.lt_of_lt_of_le hlt hle⟩
    · obtain rfl := List.mem_singleton.mp hy
      exact ⟨_, (hadv.counted i hi).2, rfl, Nat.lt_succ_self _⟩
  · refine List.pairwise_append.mpr ⟨h.ordered, List.pairwise_singleton _ _, ?_⟩
    intro y hy z hz i hi hzi
    obtain rfl := List.mem_singleton.mp hz
    obtain ⟨session, hsession, hbase, hlt⟩ := h.behind y hy i hi
    -- the session the poll finds is the one the earlier poll left behind
    have hfound := (hadv.counted i hzi).1
    rw [hsession] at hfound
    cases hfound
    exact ⟨hbase, hlt⟩

/-- **The run lemma.** -/
theorem readsInv_run (T : Transport N) (net : N) (sessions : List Session) {ops : List ClientOp}
    (hops : ∀ op ∈ ops, op.device.toNat < 256) :
    ReadsInv gcm T (run (clientStep gcm T) ⟨net, sessions, []⟩ ops) :=
  run_induction (P := fun _ op => op.device.toNat < 256) (fun _ _ h hdev => h.step hdev)
    (.start gcm T net sessions) (along_of_mem (fun op hop _ => hops op hop) _)

/-! ## The seal behind an accepted frame -/

section Seals

variable {seals : List Seal} {x y : Done} {σ : Seal}

theorem responseCall_wellFormed (hclient : T.clientId.toNat < 256) {device : UInt16}
    (hdev : device.toNat < 256) (dataId : UInt32) (key : Key) (kid : UInt8) (cr sr : Rand) :
    (responseCall T device dataId key kid cr sr).WellFormed :=
  ⟨rfl, hdev, hclient⟩

theorem nextReadCall_wellFormed (hclient : T.clientId.toNat < 256) {device : UInt16}
    (hdev : device.toNat < 256) (key : Key) (session : Session) :
    (nextReadCall T device key session).WellFormed :=
  ⟨rfl, hdev, hclient⟩

theorem challenged_device {op : ClientOp} {device : UInt16} {dataId : UInt32} {key : Key}
    {kid : UInt8} (h : op.challenged = some (device, dataId, key, kid)) : op.device = device := by
  cases op <;> cases h <;> rfl

/-- The seal accepted is the one behind the only frame that verified. -/
theorem Done.AcceptedFrom.only {call : AeadCall} {cipher : List UInt8} {tag : Tag}
    (h : x.AcceptedFrom σ) (hone : clientOpened x.calls = [⟨call, cipher, tag⟩]) :
    σ.Justifies call cipher tag := by
  obtain ⟨f, hf, hj⟩ := h
  rw [hone, List.mem_singleton] at hf
  subst hf
  exact hj

/-- The seal that one of the only frames stands for, over the ideal AEAD. -/
theorem seal_behind (hg : gcm.Correct) {history : List Done} (hideal : ClientJustified seals history)
    (hwell : ∀ σ ∈ seals, σ.Made gcm ∧ σ.call.WellFormed) (hx : x ∈ history) {call : AeadCall}
    {cipher data : List UInt8} {tag : Tag} (hcall : call.WellFormed)
    (hone : clientOpened x.calls = [⟨call, cipher, tag⟩])
    (hopen : aeadOpen gcm call cipher tag = some data) :
    ∃ σ ∈ seals, σ.plain = data ∧ σ.call = call := by
  obtain ⟨σ, hσ, hj⟩ := hideal x hx _ (by rw [hone]; exact List.mem_singleton_self _)
  obtain ⟨hmade, hwf⟩ := hwell σ hσ
  obtain ⟨hc, hp⟩ := hj.agree hg hmade hwf hcall hopen
  exact ⟨σ, hσ, hp, hc⟩

/-- A seal that a challenged read accepted names the random of that read. -/
theorem accepted_random (hclient : T.clientId.toNat < 256) (hdev : x.op.device.toNat < 256)
    (hx : Verified gcm T x) (hwf : σ.call.WellFormed) (hread : x.op.challenged.isSome)
    (hdata : x.data.isSome) (hacc : x.AcceptedFrom σ) :
    ∃ cr sr, cr ∈ clientDrawn x.calls ∧ σ.call.randoms = some (cr, sr) := by
  obtain ⟨⟨device, dataId, key, kid⟩, hc⟩ := Option.isSome_iff_exists.mp hread
  obtain ⟨data, hd⟩ := Option.isSome_iff_exists.mp hdata
  obtain ⟨cr, sr, cipher, tag, hdrawn, hone, -⟩ := hx.response device dataId key kid data hc hd
  rw [challenged_device hc] at hdev
  have hj := hacc.only hone
  obtain ⟨-, -, -, -, -, hrand, -⟩ := aad_injective hwf
    (responseCall_wellFormed hclient hdev dataId key kid cr sr) hj.aad
  exact ⟨cr, sr, by rw [hdrawn]; exact List.mem_singleton_self _, hrand⟩

/-- A seal that a poll accepted was made under the nonce of that poll. -/
theorem accepted_nonce (hx : Verified gcm T x) {i : Nat} (hpoll : x.polled = some i)
    (hacc : x.AcceptedFrom σ) : x.session.counter < keyUseLimit ∧
      σ.call.nonce = buildSessionNonce x.session.nonceBase (x.session.counter + 1) := by
  unfold Done.polled at hpoll
  split at hpoll
  · rename_i j device key plainMax data hop hdata
    obtain ⟨-, hbudget, cipher, tag, hone, -⟩ := hx.poll j device key plainMax data hop hdata
    exact ⟨hbudget, (hacc.only hone).nonce⟩
  · cases hpoll

end Seals

/-! ## The headline -/

/-- **Reads are authentic and fresh.**  Over every transport, from any sessions held,
    through any calls of the client to devices of one byte: when every frame that verified
    is the frame of some seal, a read returns the plaintext of a seal made for this very
    read, and no seal is accepted twice. -/
theorem reads_authentic (gcm : Gcm) (hg : gcm.Correct) (T : Transport N)
    (hclient : T.clientId.toNat < 256) (net : N) (sessions : List Session) (ops : List ClientOp)
    (hops : ∀ op ∈ ops, op.device.toNat < 256) (seals : List Seal)
    (hseals : ∀ σ ∈ seals, σ.Made gcm ∧ σ.call.WellFormed)
    (hideal : ClientJustified seals (done gcm T net sessions ops)) :
    ReadLaw T seals (done gcm T net sessions ops) := by
  have hinv : ReadsInv gcm T (run (clientStep gcm T) ⟨net, sessions, []⟩ ops) :=
    readsInv_run T net sessions hops
  unfold done at hideal ⊢
  generalize run (clientStep gcm T) ⟨net, sessions, []⟩ ops = s at hinv hideal ⊢
  refine ⟨?_, ?_, ?_, ?_⟩
  · intro x hx device dataId key kid data hread hdata
    obtain ⟨cr, sr, cipher, tag, hdrawn, hone, hopen⟩ :=
      (hinv.verified x hx).response device dataId key kid data hread hdata
    have hdev := hinv.devices x hx
    rw [challenged_device hread] at hdev
    obtain ⟨σ, hσ, hplain, hcall⟩ := seal_behind hg hideal hseals hx
      (responseCall_wellFormed hclient hdev dataId key kid cr sr) hone hopen
    exact ⟨σ, hσ, hplain, cr, sr, hdrawn, hcall⟩
  · intro x hx i device key plainMax data hop hdata
    obtain ⟨-, -, cipher, tag, hone, hopen⟩ :=
      (hinv.verified x hx).poll i device key plainMax data hop hdata
    have hdev := hinv.devices x hx
    rw [hop] at hdev
    obtain ⟨σ, hσ, hplain, hcall⟩ := seal_behind hg hideal hseals hx
      (nextReadCall_wellFormed hclient hdev key x.session) hone hopen
    exact ⟨σ, hσ, hplain, hcall⟩
  · intro hnodup
    refine (List.nodup_flatMap.mp hnodup).2.imp_of_mem ?_
    rintro x y hx hy hdisjoint hxr hyr hxd hyd σ hσ ⟨hxa, hya⟩
    obtain ⟨cr, sr, hmem, hrand⟩ := accepted_random hclient (hinv.devices x hx)
      (hinv.verified x hx) (hseals σ hσ).2 hxr hxd hxa
    obtain ⟨cr', sr', hmem', hrand'⟩ := accepted_random hclient (hinv.devices y hy)
      (hinv.verified y hy) (hseals σ hσ).2 hyr hyd hya
    rw [hrand] at hrand'
    cases hrand'
    exact hdisjoint hmem hmem'
  · refine hinv.ordered.imp_of_mem ?_
    rintro x y hx hy hlater i hxi hyi σ - ⟨hxa, hya⟩
    obtain ⟨hxb, hxn⟩ := accepted_nonce (hinv.verified x hx) hxi hxa
    obtain ⟨hyb, hyn⟩ := accepted_nonce (hinv.verified y hy) hyi hya
    obtain ⟨hbase, hlt⟩ := hlater i hxi hyi
    rw [hxn, hbase] at hyn
    have hsame := buildSessionNonce_inj _ _ _ hxb hyb hyn
    omega

/-! ## A worked run -/

/-- A transport that acknowledges every frame and hands out the listed answers, as far
    as each fits; its randoms count up. -/
def sampleAnswers : Transport (Nat × List (List UInt8)) where
  clientId := 20
  random net := (some (sampleRand net.1), (net.1 + 1, net.2))
  read _ _ _ cap net := (.ok ((net.2.headD []).take cap), (net.1, net.2.tail))
  write _ _ _ net := (.ok (), net)
  fits := by
    rintro device dataId body cap net reply ⟨⟩
    exact List.length_take_le _ _

/-- The seals a server makes for a read, for an arming read, and for the two polls of
    the session that one opens. -/
def sampleResponses : List Seal :=
  let session := armedSession 0x20000000 0x01 (aeadXorNonce (sampleRand 6) (sampleRand 40))
  [sealOf sampleGcm (responseCall sampleAnswers 1 0x20000000 sampleKey 0x81 (sampleRand 5)
      (sampleRand 40)) [1, 2, 3, 4],
    sealOf sampleGcm (responseCall sampleAnswers 1 0x20000000 sampleKey 0x41 (sampleRand 6)
      (sampleRand 40)) [1, 2, 3, 5],
    sealOf sampleGcm (nextReadCall sampleAnswers 1 sampleKey session) [1, 2, 3, 6],
    sealOf sampleGcm (nextReadCall sampleAnswers 1 sampleKey { session with counter := 1 })
      [1, 2, 3, 7]]

/-- The answers: the response, the arming response, its replay to the first poll, and
    the two replies. -/
def sampleReplies : List (List UInt8) :=
  let response := fun σ : Seal => toList (sampleRand 40) ++ σ.cipher ++ toList σ.tag
  let reply := fun (n : UInt8) (σ : Seal) => n :: σ.cipher ++ toList σ.tag
  match sampleResponses with
  | [r, a, p, q] => [response r, response a, response a, reply 1 p, reply 2 q]
  | _ => []

/-- The application reads once, arms a session, and polls it three times. -/
def sampleReads : List ClientOp :=
  [.read 1 0x20000000 sampleKey 0x81 32, .readArmed 1 0x20000000 sampleKey 0x01 32,
    .pollRead 0 1 sampleKey 32, .pollRead 0 1 sampleKey 32, .pollRead 0 1 sampleKey 32]

/-- `reads_authentic` on that run: the replayed frame is turned down, the rest is
    returned. -/
theorem sampleReads_authentic :
    (done sampleGcm sampleAnswers (5, sampleReplies) [] sampleReads).map (·.data) =
        [some [1, 2, 3, 4], some [1, 2, 3, 5], none, some [1, 2, 3, 6], some [1, 2, 3, 7]] ∧
      ReadLaw sampleAnswers sampleResponses
        (done sampleGcm sampleAnswers (5, sampleReplies) [] sampleReads) :=
  ⟨by decide +kernel,
    reads_authentic sampleGcm sampleGcm_correct sampleAnswers (by decide) (5, sampleReplies) []
      sampleReads (by decide) sampleResponses
      (fun σ hσ => ⟨(by decide +kernel : ∀ σ ∈ sampleResponses, σ.Made sampleGcm) σ hσ, by
        simp only [sampleResponses, List.mem_cons, List.not_mem_nil, or_false] at hσ
        rcases hσ with rfl | rfl | rfl | rfl <;> exact ⟨rfl, by decide, by decide⟩⟩)
      (by decide +kernel)⟩

end SofaReadAuthenticity
