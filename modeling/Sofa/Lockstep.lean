import Sofa.ClientNonce
import Sofa.Honest

/-! # A cyclic session in lockstep, over a channel that loses frames

    A session is two counters that advance at different moments: the server's when it
    serves a poll, the client's when the answer arrives.  A lost reply leaves the server one
    ahead, and the session stays there: the next poll carries a counter the server has
    already used.

    * `ReadPollServed`, `WritePollServed`: what one poll does at the server;
    * `ReadSynced`, `WriteSynced`: the two ends right after an arming call that succeeded;
    * **`reads_lock`**, **`writes_lock`**: what any sequence of polls keeps, whatever is lost;
    * **`reads_succeed`**, **`writes_succeed`**: when nothing is lost and the hooks accept,
      every poll up to the use limit succeeds;
    * **`session_lockstep`**: all of it, from the arming call on. -/

namespace SofaLockstep

open ByteBlock SofaConfig SofaAead SofaOd SofaMoves SofaServer SofaReads SofaWrites SofaWriteFrames
  SofaExec SofaClient SofaClientMoves SofaClientNonce SofaChannel SofaHonest SofaDevice StateWp
  Machine

variable {H C : Type} {gcm : Gcm} {P : Ports H} {client : UInt16} {random : C → Option Rand × C}
  {idx : Fin sodMaxEntries} {entry : SodEntry} {dataId : UInt32} {key : Key} {kid : UInt8}

/-! ## Lockstep -/

/-- The client's session and the server's slot are in step: one nonce base, the server's
    counter the client's or one more, and no counter past the use limit. -/
structure Lockstep (sess : Session) (nonceBase : Nonce) (counter : Nat) : Prop where
  base : nonceBase = sess.nonceBase
  behind : sess.counter ≤ counter
  ahead : counter ≤ sess.counter + 1
  limit : counter ≤ keyUseLimit

/-- The counter byte of the next poll tells the two positions apart. -/
theorem Lockstep.current {sess : Session} {nonceBase : Nonce} {counter : Nat}
    (h : Lockstep sess nonceBase counter)
    (hbyte : UInt8.ofNat (counter + 1) = UInt8.ofNat (sess.counter + 1)) :
    counter = sess.counter := by
  have hnat := congrArg UInt8.toNat hbyte
  simp only [UInt8.toNat_ofNat'] at hnat
  have hbehind := h.behind
  have hahead := h.ahead
  omega

/-- One more on both sides. -/
theorem Lockstep.both {sess : Session} {nonceBase : Nonce} {counter : Nat}
    (h : Lockstep sess nonceBase counter) (hlim : counter < keyUseLimit) :
    Lockstep { sess with counter := sess.counter + 1 } nonceBase (counter + 1) :=
  ⟨h.base, Nat.succ_le_succ h.behind, Nat.succ_le_succ h.ahead, hlim⟩

/-- One more at the server, and the answer lost. -/
theorem Lockstep.server {sess : Session} {nonceBase : Nonce} {counter : Nat}
    (h : Lockstep sess nonceBase counter) (hcur : counter = sess.counter)
    (hlim : counter < keyUseLimit) : Lockstep sess nonceBase (counter + 1) :=
  ⟨h.base, Nat.le_succ_of_le h.behind, by omega, hlim⟩

/-- The client and the server build the same nonce for the next poll. -/
theorem Lockstep.nonce {sess : Session} {nonceBase : Nonce} {counter : Nat}
    (h : Lockstep sess nonceBase counter) (hcur : counter = sess.counter) :
    sessionBuildNonce sess (sess.counter + 1) = buildSessionNonce nonceBase (counter + 1) := by
  rw [h.base, hcur]
  rfl

/-! ## One exchange over the channel -/

/-- The transport of one client to the secure OD. -/
abbrev link (gcm : Gcm) (P : Ports H) (client : UInt16) (random : C → Option Rand × C) :
    Transport (Channel C (Server H)) :=
  channelTransport (sodService gcm P) client random

/-- The server after one request. -/
abbrev servedBy (gcm : Gcm) (P : Ports H) (client : UInt16) (dataId : UInt32) (body : List UInt8)
    (srv : Server H) : Server H :=
  step gcm P srv (.request client dataId body dispatchReplyMax)

/-- **One request on a registered data id**, as the channel sees it: a move, its answer, and
    the exchange added to the history. -/
theorem served_move {srv : Server H} (body : List UInt8)
    (hf : srv.sod.registry.find dataId = some (idx, entry)) :
    ∃ log r s' host, Move gcm P client body (P.timeMs srv.host).1 srv.sod idx entry log r s' ∧
      (sodService gcm P client dataId body srv).1 = answer r ∧
      servedBy gcm P client dataId body srv =
        ⟨s', host, srv.history ++ [⟨client, dataId, body, r, log⟩]⟩ := by
  rcases request_cases gcm P srv client dataId body dispatchReplyMax with
    ⟨hnone, -, -⟩ | ⟨i, e, log, r, s', host, hsome, hmove, hexchange, hstep⟩
  · rw [hf] at hnone
    cases hnone
  · obtain ⟨rfl, rfl⟩ : idx = i ∧ entry = e := by simpa using hf.symm.trans hsome
    refine ⟨log, r, s', host, hmove, ?_, hstep⟩
    have hr : (exchange gcm P srv client dataId body dispatchReplyMax).result = r :=
      congrArg Exchange.result hexchange
    exact congrArg answer hr

/-! ## A read poll, at the server -/

/-- The seals of a history that succeeded, in order. -/
def madeSeals (history : List Exchange) : List Sealing :=
  (sealed history).filter (·.out.isSome)

theorem madeSeals_append (history : List Exchange) (x : Exchange) :
    madeSeals (history ++ [x]) = madeSeals history ++ (sealings x.calls).filter (·.out.isSome) := by
  rw [madeSeals, sealed_append, List.filter_append, madeSeals]

/-- What a one-byte request does to the read slot of its entry: nothing but a teardown, with
    a reply too short to be a poll's, or it is the next poll and is answered by a seal. -/
inductive ReadPollServed (gcm : Gcm) (P : Ports H) (s : Sod) (idx : Fin sodMaxEntries)
    (entry : SodEntry) (client : UInt16) (req : List UInt8) :
    List Event → SodResult → ReadSlot → Prop where
  | idle {log : List Event} {r : SodResult} {slot : ReadSlot}
      (seals : (sealings log).filter (·.out.isSome) = [])
      (short : ∀ reply, answer r = .ok reply → reply.length ≤ 12)
      (kept : slot = s.readSlot idx ∨ slot = { s.readSlot idx with inUse := false }) :
      ReadPollServed gcm P s idx entry client req log r slot
  | answered {log : List Event} {key : Key} {plain cipher : List UInt8} {tag : Tag}
      {now now' : UInt16} (checked : ReadPollChecked s idx entry client req now key plain)
      (sealed : aeadSeal gcm (readPollCall P (s.readSlot idx) entry key) plain =
        some (cipher, tag))
      (seals : (sealings log).filter (·.out.isSome) =
        [⟨readPollCall P (s.readSlot idx) entry key, plain, some (cipher, tag)⟩]) :
      ReadPollServed gcm P s idx entry client req log
        (.ok (pollFrame ((s.readSlot idx).counter + 1) cipher tag))
        { s.readSlot idx with counter := (s.readSlot idx).counter + 1, armedAt := now' }

/-- **A read poll at the server.** -/
theorem readPoll_served {req : List UInt8} {arrival : UInt16} {s s' : Sod} {log : List Event}
    {r : SodResult} (hone : req.length = 1)
    (h : Move gcm P client req arrival s idx entry log r s') :
    ReadPollServed gcm P s idx entry client req log r (s'.readSlot idx) ∧ s'.keys = s.keys := by
  have hshort : ¬ readChallengeLen < req.length := by
    show ¬ 13 < req.length
    omega
  cases h with
  | refused quiet =>
      refine ⟨.idle ?_ (fun _ h => by cases h) (.inl rfl), rfl⟩
      rw [sealings_quiet quiet]
      rfl
  | readArmFailed checked => exact absurd (hone.symm.trans checked.len) (by decide)
  | readArmed checked => exact absurd (hone.symm.trans checked.len) (by decide)
  | fetchDropped ro empty => simp [empty] at hone
  | fetchedOnce ro empty => simp [empty] at hone
  | fetchedCyclic ro empty => simp [empty] at hone
  | readLapsed =>
      exact ⟨.idle rfl (fun _ h => by cases h) (.inr (Sod.readSlot_setRead s idx _)), rfl⟩
  | readPollFailed checked passive =>
      refine ⟨.idle ?_ (fun _ h => by cases h) (.inl rfl), rfl⟩
      rw [sealings_passive passive]
      rfl
  | readPolled checked passive clock gate source sealed =>
      rw [Sod.readSlot_setRead]
      refine ⟨.answered checked sealed ?_, rfl⟩
      rw [sealings_passive passive]
      rfl
  | writeArmed wo len idle kid binding passive passive' =>
      refine ⟨.idle ?_ (fun reply h => ?_) (.inl rfl), rfl⟩
      · rw [sealings_passive passive, List.cons_append.symm]
        rw [sealings_quiet (by simp [EventQuiet, EventPassive, passive'.quiet])]
        rfl
      · cases h
        simp
  | pass2Dropped wo inUse len => omega
  | pass2Forged checked => exact absurd (pass2Len_long checked.len) hshort
  | pass2Refused checked => exact absurd (pass2Len_long checked.len) hshort
  | pass2Once checked => exact absurd (pass2Len_long checked.len) hshort
  | pass2Cyclic checked => exact absurd (pass2Len_long checked.len) hshort
  | writeLapsed wo len => exact absurd (pollLen_long len) hshort
  | writePollForged checked => exact absurd (pollLen_long checked.len) hshort
  | writePollRefused checked => exact absurd (pollLen_long checked.len) hshort
  | writePolled checked => exact absurd (pollLen_long checked.len) hshort

/-! ## What the two ends have to show for it -/

/-- The server's record of a session against the client's: one entry for each counter, and
    what the client has to show is the record, short of the last entry at most. -/
structure Tally (sess : Session) (counter : Nat) (record out : List (List UInt8)) : Prop where
  recorded : record.length = counter
  count : out.length = sess.counter
  agree : ∃ extra, extra.length ≤ 1 ∧ record = out ++ extra

section Tally

variable {sess : Session} {counter : Nat} {record out : List (List UInt8)}

/-- While the counters agree, the client holds the whole record. -/
theorem Tally.whole (h : Tally sess counter record out) (hcur : counter = sess.counter) :
    record = out := by
  obtain ⟨extra, -, hrecord⟩ := h.agree
  have hlen : record.length = out.length + extra.length := by rw [hrecord, List.length_append]
  have hnone : extra = [] := by
    rw [← List.length_eq_zero_iff]
    have hrecorded := h.recorded
    have hcount := h.count
    omega
  rw [hrecord, hnone, List.append_nil]

/-- An entry at both ends. -/
theorem Tally.both (h : Tally sess counter record out) (hcur : counter = sess.counter)
    (plain : List UInt8) :
    Tally { sess with counter := sess.counter + 1 } (counter + 1) (record ++ [plain])
      (out ++ [plain]) where
  recorded := by simp [h.recorded]
  count := by simp [h.count]
  agree := ⟨[], by simp, by rw [h.whole hcur, List.append_nil]⟩

/-- An entry at the server, and the answer lost. -/
theorem Tally.server (h : Tally sess counter record out) (hcur : counter = sess.counter)
    (plain : List UInt8) : Tally sess (counter + 1) (record ++ [plain]) out where
  recorded := by simp [h.recorded]
  count := h.count
  agree := ⟨[plain], by simp, by rw [h.whole hcur]⟩

end Tally

theorem range_nonces (base : Nonce) (counter : Nat) :
    (List.range' 1 (counter + 1)).map (buildSessionNonce base) =
      (List.range' 1 counter).map (buildSessionNonce base) ++
        [buildSessionNonce base (counter + 1)] := by
  rw [List.range'_1_concat, List.map_append, Nat.add_comm 1 counter]
  rfl

/-! ## Read polls -/

/-- A client between two read polls of one session, and the results so far. -/
structure Reading (C H : Type) where
  session : Session
  net : Channel C (Server H)
  history : List (Except SecpError (List UInt8 × Tag))

/-- One read poll, into a buffer of `plainMax` bytes. -/
def readStep (gcm : Gcm) (P : Ports H) (client : UInt16) (random : C → Option Rand × C)
    (key : Key) (e : Reading C H) (plainMax : Nat) : Reading C H :=
  let r := securePollRead gcm (link gcm P client random) P.deviceId key e.session plainMax
    ⟨e.net, []⟩
  { session := r.1.2, net := r.2.net, history := e.history ++ [r.1.1] }

/-- The plaintexts the polls returned, in order. -/
def returned (history : List (Except SecpError (List UInt8 × Tag))) : List (List UInt8) :=
  history.filterMap fun
    | .ok (plain, _) => some plain
    | .error _ => none

theorem returned_ok (history : List (Except SecpError (List UInt8 × Tag))) (plain : List UInt8)
    (tag : Tag) : returned (history ++ [.ok (plain, tag)]) = returned history ++ [plain] := by
  simp [returned]

theorem returned_error (history : List (Except SecpError (List UInt8 × Tag))) (e : SecpError) :
    returned (history ++ [.error e]) = returned history := by
  simp [returned]

/-- What the client's session and the server's slot have in common. -/
structure ReadSide (client : UInt16) (dataId : UInt32) (idx : Fin sodMaxEntries)
    (entry : SodEntry) (key : Key) (sess : Session) (s : Sod) : Prop where
  inUse : sess.inUse = true
  target : sess.dataId = dataId
  found : s.registry.find dataId = some (idx, entry)
  installed : s.keys.getKey (keyidBase sess.keyId) = some key
  owner : (s.readSlot idx).clientDev = client
  keyId : (s.readSlot idx).keyId = sess.keyId

/-- **The two ends of a read session**: what they share, the counters in step, one seal for
    each counter, and the plaintexts `out` the client was given against those the server
    sealed since `before`. -/
structure ReadLock (client : UInt16) (dataId : UInt32) (idx : Fin sodMaxEntries)
    (entry : SodEntry) (key : Key) (before : List Exchange) (sess : Session) (srv : Server H)
    (out : List (List UInt8)) : Prop where
  side : ReadSide client dataId idx entry key sess srv.sod
  lock : Lockstep sess (srv.sod.readSlot idx).nonceBase (srv.sod.readSlot idx).counter
  tally : ∃ served, srv.history = before ++ served ∧
    (madeSeals served).map (·.call.nonce) =
      (List.range' 1 (srv.sod.readSlot idx).counter).map (buildSessionNonce sess.nonceBase) ∧
    Tally sess (srv.sod.readSlot idx).counter ((madeSeals served).map (·.plain)) out

/-- The client opens a reply with the call the server sealed it under. -/
theorem nextReadCall_eq {sess : Session} {s : Sod}
    (side : ReadSide client dataId idx entry key sess s)
    (lock : Lockstep sess (s.readSlot idx).nonceBase (s.readSlot idx).counter)
    (hcur : (s.readSlot idx).counter = sess.counter) :
    nextReadCall (link gcm P client random) P.deviceId key sess =
      readPollCall P (s.readSlot idx) entry key := by
  have hentry : entry.dataId = dataId := find_dataId side.found
  simp only [nextReadCall, readPollCall, clientCall, serverCall, lock.nonce hcur, side.keyId,
    side.owner, side.target, hentry]
  rfl

/-- **The next poll at the server**: it answers nothing a poll could be, or it seals the
    next reply for the call the client will open it with; in step either way, and with the
    reply taken too. -/
theorem readLock_served (gcm : Gcm) (P : Ports H) (random : C → Option Rand × C)
    {before : List Exchange} {sess : Session} {srv : Server H} {out : List (List UInt8)}
    (h : ReadLock client dataId idx entry key before sess srv out) :
    ReadLock client dataId idx entry key before sess
        (servedBy gcm P client dataId [UInt8.ofNat (sess.counter + 1)] srv) out ∧
      ∀ reply, (sodService gcm P client dataId [UInt8.ofNat (sess.counter + 1)] srv).1 = .ok reply →
        reply.length ≤ 12 ∨
        ∃ plain cipher tag, reply = pollFrame (sess.counter + 1) cipher tag ∧
          aeadSeal gcm (nextReadCall (link gcm P client random) P.deviceId key sess) plain =
            some (cipher, tag) ∧
          ReadLock client dataId idx entry key before { sess with counter := sess.counter + 1 }
            (servedBy gcm P client dataId [UInt8.ofNat (sess.counter + 1)] srv)
            (out ++ [plain]) := by
  obtain ⟨side, lock, served, hhistory, nonces, tally⟩ := h
  obtain ⟨log, r, s', host, hmove, hanswer, hstep⟩ :=
    served_move [UInt8.ofNat (sess.counter + 1)] side.found
  obtain ⟨hserved, hkeys⟩ := readPoll_served (by rfl) hmove
  have hregistry : s'.registry = srv.sod.registry := Move.registry hmove
  have hfound : s'.registry.find dataId = some (idx, entry) := by
    rw [hregistry]
    exact side.found
  have hinstalled : s'.keys.getKey (keyidBase sess.keyId) = some key := by
    rw [hkeys]
    exact side.installed
  have hextended : ∀ x, srv.history ++ [x] = before ++ (served ++ [x]) := fun x => by
    rw [hhistory, List.append_assoc]
  rw [hanswer, hstep]
  generalize hslot : s'.readSlot idx = slot' at hserved
  cases hserved with
  | idle seals short kept =>
      -- the slot is at most torn down: neither counter nor nonce base moves
      have hsame : slot'.clientDev = (srv.sod.readSlot idx).clientDev ∧
          slot'.keyId = (srv.sod.readSlot idx).keyId ∧
          slot'.nonceBase = (srv.sod.readSlot idx).nonceBase ∧
          slot'.counter = (srv.sod.readSlot idx).counter := by
        rcases kept with rfl | rfl <;> exact ⟨rfl, rfl, rfl, rfl⟩
      obtain ⟨howner, hkeyId, hbase, hcounter⟩ := hsame
      refine ⟨⟨⟨side.inUse, side.target, hfound, hinstalled, ?_, ?_⟩, ?_, _, hextended _, ?_, ?_⟩,
        fun reply hreply => .inl (short reply hreply)⟩
      · rw [hslot, howner, side.owner]
      · rw [hslot, hkeyId, side.keyId]
      · rw [hslot, hbase, hcounter]
        exact lock
      · rw [hslot, hcounter, madeSeals_append, seals, List.append_nil]
        exact nonces
      · rw [hslot, hcounter, madeSeals_append, seals, List.append_nil]
        exact tally
  | @answered key' plain cipher tag now now' checked sealed seals =>
      -- the counter byte was the next one, so the two counters agree
      have hcur : (srv.sod.readSlot idx).counter = sess.counter := lock.current checked.counter
      have hkey : key' = key := by
        have hkey' := checked.installed
        rw [side.keyId, side.installed] at hkey'
        exact (Option.some.inj hkey').symm
      subst hkey
      have hcall : nextReadCall (link gcm P client random) P.deviceId key' sess =
          readPollCall P (srv.sod.readSlot idx) entry key' := nextReadCall_eq side lock hcur
      have hnonce : (readPollCall P (srv.sod.readSlot idx) entry key').nonce =
          buildSessionNonce sess.nonceBase ((srv.sod.readSlot idx).counter + 1) := by
        rw [← lock.base]
        rfl
      have hside : ReadSide client dataId idx entry key' sess s' :=
        ⟨side.inUse, side.target, hfound, hinstalled, by rw [hslot]; exact side.owner,
          by rw [hslot]; exact side.keyId⟩
      have hnonces : ∀ r, (madeSeals (served ++
          [⟨client, dataId, [UInt8.ofNat (sess.counter + 1)], r, log⟩])).map (·.call.nonce) =
            (List.range' 1 ((srv.sod.readSlot idx).counter + 1)).map
              (buildSessionNonce sess.nonceBase) := fun r => by
        rw [madeSeals_append, seals, List.map_append, List.map_singleton, hnonce, nonces,
          range_nonces]
      refine ⟨⟨hside, ?_, _, hextended _, by rw [hslot]; exact hnonces _, ?_⟩,
        fun reply hreply => .inr ⟨plain, cipher, tag, ?_, ?_, ?_⟩⟩
      · rw [hslot]
        exact lock.server hcur checked.budget
      · rw [hslot, madeSeals_append, seals, List.map_append, List.map_singleton]
        exact tally.server hcur plain
      · cases hreply
        rw [hcur]
      · rw [hcall]
        exact sealed
      · refine ⟨⟨side.inUse, side.target, hfound, hinstalled, hside.owner, hside.keyId⟩, ?_, _,
          hextended _, by rw [hslot]; exact hnonces _, ?_⟩
        · rw [hslot]
          exact lock.both checked.budget
        · rw [hslot, madeSeals_append, seals, List.map_append, List.map_singleton]
          exact tally.both hcur plain

/-- **One read poll keeps the two ends in step**, whatever the channel loses. -/
theorem readStep_lock (hg : gcm.Correct) {before : List Exchange} {e : Reading C H}
    (h : ReadLock client dataId idx entry key before e.session e.net.server (returned e.history))
    (plainMax : Nat) :
    ReadLock client dataId idx entry key before
      (readStep gcm P client random key e plainMax).session
      (readStep gcm P client random key e plainMax).net.server
      (returned (readStep gcm P client random key e plainMax).history) := by
  have houtcome : wp (securePollRead gcm (link gcm P client random) P.deviceId key e.session
      plainMax) _ _ := pollRead_outcome ⟨e.net, []⟩
  obtain ⟨hlock, hreply⟩ := readLock_served gcm P random h
  unfold readStep
  obtain ⟨log, -, hout⟩ := houtcome
  generalize securePollRead gcm (link gcm P client random) P.deviceId key e.session plainMax
    ⟨e.net, []⟩ = r at hout
  obtain ⟨⟨res, sess'⟩, ⟨net', log'⟩⟩ := r
  dsimp only at hout ⊢
  cases hout with
  | refused =>
      rw [returned_error]
      exact h
  | failed inUse budget got idle =>
      rw [h.side.target] at got
      rw [returned_error]
      rcases read_cases got with ⟨hsame, -⟩ | ⟨hserved, -⟩
      · rw [hsame]
        exact h
      · rw [hserved]
        exact hlock
  | @verified net' reply plain inUse budget got long head opened =>
      rw [h.side.target] at got
      rcases read_cases got with ⟨-, e, he⟩ | ⟨hserved, hanswer⟩
      · cases he
      · rcases hreply reply (hanswer reply rfl) with hshort | ⟨plain', cipher, tag, rfl, sealed, hboth⟩
        · have hlong : 17 ≤ reply.length := long
          omega
        · -- the client opens what the server sealed
          rw [replyCipher_pollFrame, replyTag_pollFrame, aeadOpen_aeadSeal hg sealed] at opened
          obtain rfl : plain' = plain := Option.some.inj opened
          rw [hserved, returned_ok]
          exact hboth

/-! ## Read polls that succeed -/

/-- Both ends of a live session at the same counter. -/
structure ReadSynced (client : UInt16) (dataId : UInt32) (idx : Fin sodMaxEntries)
    (entry : SodEntry) (key : Key) (sess : Session) (s : Sod) : Prop
    extends ReadSide client dataId idx entry key sess s where
  ro : entry.hasRo = true
  live : (s.readSlot idx).inUse = true
  cyclic : (s.readSlot idx).cyclic = true
  base : (s.readSlot idx).nonceBase = sess.nonceBase
  counter : (s.readSlot idx).counter = sess.counter

theorem ReadSynced.lockstep {sess : Session} {s : Sod}
    (h : ReadSynced client dataId idx entry key sess s) (hlim : sess.counter ≤ keyUseLimit) :
    Lockstep sess (s.readSlot idx).nonceBase (s.readSlot idx).counter :=
  ⟨h.base, h.counter.ge, h.counter.le.trans (Nat.le_succ _), h.counter.le.trans hlim⟩

/-- The hooks grant the read that serves the next poll, the session is still fresh when it
    arrives, and the data fits the client's buffer. -/
def ReadAccepted (P : Ports H) (idx : Fin sodMaxEntries) (entry : SodEntry) (e : Reading C H)
    (plainMax : Nat) : Prop :=
  ageWithin (P.timeMs e.net.server.host).1 (e.net.server.sod.readSlot idx).armedAt
      sessionIdleTimeoutMs = true ∧ entry.dataLen ≤ plainMax ∧
    ∃ plain host', ReadGranted P entry (keyidBase e.session.keyId)
      (P.timeMs e.net.server.host).2 plain host' ∧ plain.length = entry.dataLen

/-- **A read poll that is accepted**: it succeeds, and both ends count it. -/
theorem readStep_synced (random : C → Option Rand × C) (hg : gcm.Correct) {e : Reading C H}
    (h : ReadSynced client dataId idx entry key e.session e.net.server.sod)
    (lossless : e.net.Lossless) (budget : e.session.counter < keyUseLimit) {plainMax : Nat}
    (accepted : ReadAccepted P idx entry e plainMax) :
    ReadSynced client dataId idx entry key (readStep gcm P client random key e plainMax).session
        (readStep gcm P client random key e plainMax).net.server.sod ∧
      (readStep gcm P client random key e plainMax).net.Lossless ∧
      (readStep gcm P client random key e plainMax).session.counter = e.session.counter + 1 ∧
      ∃ out, (readStep gcm P client random key e plainMax).history = e.history ++ [.ok out] := by
  obtain ⟨fresh, fits, plain, host', granted, full⟩ := accepted
  obtain ⟨sess, ⟨c, srv, fates⟩, history⟩ := e
  have hdata : entry.dataLen ≤ aeadMaxProtected :=
    srv.sod.registry.protected_le _ (find_mem h.found)
  have hcall : nextReadCall (link gcm P client random) P.deviceId key sess =
      readPollCall P (srv.sod.readSlot idx) entry key :=
    nextReadCall_eq h.toReadSide (h.lockstep (Nat.le_of_lt budget)) h.counter
  obtain ⟨cipher, tag, sealed⟩ := aeadSeal_isSome hg (readPollCall P (srv.sod.readSlot idx) entry key)
    (full.trans_le hdata)
  have hcipher : cipher.length = entry.dataLen := (length_aeadSeal sealed).trans full
  have hopen : aeadOpen gcm (nextReadCall (link gcm P client random) P.deviceId key sess) cipher tag =
      some plain := by
    rw [hcall]
    exact aeadOpen_aeadSeal hg sealed
  have hchecked : ReadPollChecked srv.sod idx entry client [UInt8.ofNat (sess.counter + 1)]
      (P.timeMs srv.host).1 key plain :=
    { ro := h.ro
      inUse := h.live
      cyclic := h.cyclic
      owner := h.owner
      fresh := fresh
      len := rfl
      counter := by rw [h.counter]; rfl
      budget := by rw [h.counter]; exact budget
      full := full
      installed := by rw [h.keyId]; exact h.installed }
  have hroom : pollLen entry ≤ dispatchReplyMax := by
    have hmax : entry.dataLen ≤ 32 := hdata
    show pollLen entry ≤ 64
    rw [pollLen_eq]
    omega
  rw [← h.keyId] at granted
  obtain ⟨w', hdispatch, hsod⟩ : ∃ w' : World H,
      sodDispatch gcm P client dataId [UInt8.ofNat (sess.counter + 1)] dispatchReplyMax
          ⟨srv.sod, srv.host, []⟩ = (.ok (pollFrame (sess.counter + 1) cipher tag), w') ∧
        w'.sod = srv.sod.setRead idx { srv.sod.readSlot idx with
          counter := (srv.sod.readSlot idx).counter + 1, armedAt := (P.timeMs host').1 } := by
    have hrun := (dispatch_readPoll h.found h.ro rfl h.live h.cyclic).trans
      (readPoll_exec hchecked granted sealed hroom)
    rw [h.counter] at hrun ⊢
    exact ⟨_, hrun, rfl⟩
  have hcap : (pollFrame (sess.counter + 1) cipher tag).length ≤ pollReplyLen := by
    show (pollFrame (sess.counter + 1) cipher tag).length ≤ 49
    rw [length_pollFrame, hcipher]
    exact Nat.add_le_add_right hdata 17
  have hgot : (link gcm P client random).read P.deviceId dataId [UInt8.ofNat (sess.counter + 1)]
      pollReplyLen ⟨c, srv, fates⟩ = (.ok (pollFrame (sess.counter + 1) cipher tag), _) :=
    read_delivered (Channel.fate_lossless lossless) (sodService_of srv hdispatch) hcap
  rw [← h.target] at hgot
  have hrun := pollRead_exec [] h.inUse budget hgot (hcipher.trans_le hdata) (hcipher.trans_le fits)
    hopen
  unfold readStep
  rw [hrun]
  have hslot : w'.sod.readSlot idx = { srv.sod.readSlot idx with
      counter := (srv.sod.readSlot idx).counter + 1, armedAt := (P.timeMs host').1 } := by
    rw [hsod, Sod.readSlot_setRead]
  refine ⟨?_, Channel.lossless_tail lossless, rfl, _, rfl⟩
  exact
    { inUse := h.inUse
      target := h.target
      found := by rw [hsod]; exact h.found
      installed := by rw [hsod]; exact h.installed
      owner := by rw [hslot]; exact h.owner
      keyId := by rw [hslot]; exact h.keyId
      ro := h.ro
      live := by rw [hslot]; exact h.live
      cyclic := by rw [hslot]; exact h.cyclic
      base := by rw [hslot]; exact h.base
      counter := by rw [hslot]; exact congrArg (· + 1) h.counter }

/-- **Read polls that are accepted all succeed**, up to the use limit. -/
theorem reads_succeed (hg : gcm.Correct) (maxs : List Nat) {e : Reading C H}
    (h : ReadSynced client dataId idx entry key e.session e.net.server.sod)
    (lossless : e.net.Lossless) (budget : e.session.counter + maxs.length ≤ keyUseLimit)
    (accepted : Along (readStep gcm P client random key) (ReadAccepted P idx entry) e maxs)
    (sofar : ∀ r ∈ e.history, ∃ out, r = .ok out) :
    ∀ r ∈ (run (readStep gcm P client random key) e maxs).history, ∃ out, r = .ok out := by
  induction maxs generalizing e with
  | nil => exact sofar
  | cons plainMax maxs ih =>
      rw [List.length_cons] at budget
      obtain ⟨hsynced, hlossless, hcounter, out, hhistory⟩ :=
        readStep_synced random hg h lossless (by omega) accepted.1
      refine ih hsynced hlossless (by omega) accepted.2 ?_
      rw [hhistory]
      intro r hr
      rcases List.mem_append.mp hr with hr | hr
      · exact sofar r hr
      · exact ⟨out, List.mem_singleton.mp hr⟩

/-- **What any read polls keep**, whatever is lost. -/
theorem reads_lock (hg : gcm.Correct) {before : List Exchange} {e : Reading C H}
    (h : ReadLock client dataId idx entry key before e.session e.net.server (returned e.history))
    (maxs : List Nat) :
    ReadLock client dataId idx entry key before
      (run (readStep gcm P client random key) e maxs).session
      (run (readStep gcm P client random key) e maxs).net.server
      (returned (run (readStep gcm P client random key) e maxs).history) :=
  run_induction (P := fun _ _ => True)
    (I := fun e => ReadLock client dataId idx entry key before e.session e.net.server
      (returned e.history))
    (fun _ plainMax hlock _ => readStep_lock hg hlock plainMax) h
    (along_of_forall (fun _ _ => trivial) e maxs)

/-! ## Arming a read session -/

theorem keyidBase_armKid (keyId : UInt8) : keyidBase (armKid keyId) = keyidBase keyId := by
  apply UInt8.toBitVec_inj.mp
  simp only [keyidBase, armKid, UInt8.toBitVec_and, UInt8.toBitVec_or, BitVec.and_or_distrib_right]
  simp

theorem keyidIsCyclic_armKid (keyId : UInt8) : keyidIsCyclic (armKid keyId) = true := by
  have hset : armKid keyId &&& 0x40 = 0x40 := by
    apply UInt8.toBitVec_inj.mp
    simp only [armKid, UInt8.toBitVec_and, UInt8.toBitVec_or]
    ext i
    simp
    grind
  simp [keyidIsCyclic, hset]

/-- **One request that is answered**, as the channel sees it. -/
theorem served_ok {srv : Server H} {body reply : List UInt8}
    (h : (sodService gcm P client dataId body srv).1 = .ok reply) :
    ∃ idx entry log r s' host, srv.sod.registry.find dataId = some (idx, entry) ∧
      Move gcm P client body (P.timeMs srv.host).1 srv.sod idx entry log r s' ∧
      answer r = .ok reply ∧
      servedBy gcm P client dataId body srv =
        ⟨s', host, srv.history ++ [⟨client, dataId, body, r, log⟩]⟩ := by
  cases hf : srv.sod.registry.find dataId with
  | none =>
      have hnone : sodDispatch gcm P client dataId body dispatchReplyMax ⟨srv.sod, srv.host, []⟩ =
          (.notHandled, _) := sodDispatch_notHandled hf
      rw [sodService_of srv hnone] at h
      cases h
  | some found =>
      obtain ⟨idx, entry⟩ := found
      obtain ⟨log, r, s', host, hmove, hanswer, hstep⟩ := served_move body hf
      exact ⟨idx, entry, log, r, s', host, rfl, hmove, hanswer.symm.trans h, hstep⟩

/-- A read challenge that is acknowledged has armed the slot. -/
theorem readChallenge_served {req reply : List UInt8} {arrival : UInt16} {s s' : Sod}
    {log : List Event} {r : SodResult} (hlen : req.length = readChallengeLen)
    (hok : answer r = .ok reply) (h : Move gcm P client req arrival s idx entry log r s') :
    entry.hasRo = true ∧ ∃ sr cipher tag now,
      s' = s.setRead idx (armedReadSlot client req sr cipher tag now) := by
  have hshort : ¬ readChallengeLen < req.length := by omega
  have hthirteen : req.length = 13 := hlen
  cases h with
  | refused => cases hok
  | readArmFailed => cases hok
  | readArmed checked => exact ⟨checked.ro, _, _, _, _, rfl⟩
  | fetchDropped => cases hok
  | fetchedOnce ro empty => simp [empty] at hthirteen
  | fetchedCyclic ro empty => simp [empty] at hthirteen
  | readLapsed => cases hok
  | readPollFailed => cases hok
  | readPolled checked => exact absurd (hthirteen.symm.trans checked.len) (by decide)
  | writeArmed wo len => omega
  | pass2Dropped => cases hok
  | pass2Forged => cases hok
  | pass2Refused => cases hok
  | pass2Once checked => exact absurd (pass2Len_long checked.len) hshort
  | pass2Cyclic checked => exact absurd (pass2Len_long checked.len) hshort
  | writeLapsed => cases hok
  | writePollForged => cases hok
  | writePollRefused => cases hok
  | writePolled checked => exact absurd (pollLen_long checked.len) hshort

/-- A fetch that is answered with a response, from a session's slot, has delivered what the
    slot held, and the session stays. -/
theorem fetch_served {reply : List UInt8} {arrival : UInt16} {s s' : Sod} {log : List Event}
    {r : SodResult} (hlong : 28 ≤ reply.length) (hcyclic : (s.readSlot idx).cyclic = true)
    (hok : answer r = .ok reply) (h : Move gcm P client [] arrival s idx entry log r s') :
    reply = (s.readSlot idx).prepared ∧ ∃ now,
      s' = s.setRead idx { s.readSlot idx with prepared := [], armedAt := now } := by
  cases h with
  | refused => cases hok
  | readArmFailed => cases hok
  | readArmed checked => exact absurd checked.len (by decide)
  | fetchDropped => cases hok
  | fetchedOnce ro empty inUse ready fresh single =>
      rw [hcyclic] at single
      cases single
  | fetchedCyclic =>
      cases hok
      exact ⟨rfl, _, rfl⟩
  | readLapsed => cases hok
  | readPollFailed => cases hok
  | readPolled checked => exact absurd checked.len (by decide)
  | writeArmed =>
      cases hok
      simp at hlong
  | pass2Dropped => cases hok
  | pass2Forged => cases hok
  | pass2Refused => cases hok
  | pass2Once checked => exact absurd (pass2Len_long checked.len) (by decide)
  | pass2Cyclic checked => exact absurd (pass2Len_long checked.len) (by decide)
  | writeLapsed => cases hok
  | writePollForged => cases hok
  | writePollRefused => cases hok
  | writePolled checked => exact absurd (pollLen_long checked.len) (by decide)

/-- **A read session that was armed**: both ends hold it, at counter 0. -/
theorem armed_read_synced {w w' : ClientWorld (Channel C (Server H))} {keyId : UInt8}
    {bufSize : Nat} {plain : List UInt8} {sess : Session}
    (installed : w.net.server.sod.keys.getKey (keyidBase keyId) = some key)
    (armed : secureReadArmed gcm (link gcm P client random) P.deviceId dataId key keyId bufSize w =
      (.ok (plain, sess), w')) :
    ∃ idx entry, ReadSynced client dataId idx entry key sess w'.net.server.sod ∧
      sess.counter = 0 := by
  obtain ⟨nonce, hflow, rfl⟩ : ∃ nonce, readFlow gcm (link gcm P client random) P.deviceId dataId key
      (armKid keyId) bufSize w = (.ok (plain, nonce), w') ∧ sess = armedSession dataId keyId nonce := by
    have harmed : wp (secureReadArmed gcm (link gcm P client random) P.deviceId dataId key keyId
        bufSize) (fun r t => r = .ok (plain, sess) ∧ t = w') w := by
      unfold wp
      rw [armed]
      exact ⟨rfl, rfl⟩
    unfold secureReadArmed at harmed
    rw [wp_ite] at harmed
    by_cases hrefused : keyidRefused keyId = true
    · cases (harmed.1 hrefused).1
    obtain hmatch := harmed.2 hrefused
    rw [wp_bind] at hmatch
    cases hrun : readFlow gcm (link gcm P client random) P.deviceId dataId key (armKid keyId) bufSize
        w with
    | mk res t =>
        unfold wp at hmatch
        rw [hrun] at hmatch
        cases res with
        | error e => cases hmatch.1
        | ok out =>
            obtain ⟨hres, ht⟩ := hmatch
            cases hres
            cases ht
            exact ⟨out.2, rfl, rfl⟩
  have hwp : wp (readFlow gcm (link gcm P client random) P.deviceId dataId key (armKid keyId)
      bufSize) _ w := readFlow_outcome w
  obtain ⟨log, -, hout⟩ := wp_run hwp hflow
  cases hout with
  | @verified cr net₁ net₂ net' response plain draw sent got long opened =>
      have hsame : net₁.server = w.net.server := by
        have hnet := congrArg (fun r => r.2.server) draw
        exact hnet.symm
      -- the challenge was taken: the slot holds the response and the session
      rcases write_cases sent with ⟨-, e, he⟩ | ⟨hserver₂, hreply⟩
      · cases he
      obtain ⟨reply, hreply⟩ := hreply rfl
      rw [hsame] at hserver₂ hreply
      obtain ⟨idx, entry, log₁, r₁, s₁, host₁, hf, hmove₁, hok₁, hstep₁⟩ := served_ok hreply
      obtain ⟨hro, sr, cipher, tag, now, rfl⟩ :=
        readChallenge_served length_challenge hok₁ hmove₁
      have hsod₂ : net₂.server.sod = w.net.server.sod.setRead idx
          (armedReadSlot client (armKid keyId :: toList cr) sr cipher tag now) := by
        rw [hserver₂]
        exact congrArg Server.sod hstep₁
      -- the fetch delivered it
      rcases read_cases got with ⟨-, e, he⟩ | ⟨hserver₃, hanswer⟩
      · cases he
      obtain ⟨idx', entry', log₂, r₂, s₂, host₂, hf', hmove₂, hok₂, hstep₂⟩ :=
        served_ok (hanswer response rfl)
      have hfound : (idx, entry) = (idx', entry') := by
        rw [hsod₂] at hf'
        exact Option.some.inj (hf.symm.trans hf')
      cases hfound
      have hslot₂ : net₂.server.sod.readSlot idx =
          armedReadSlot client (armKid keyId :: toList cr) sr cipher tag now := by
        rw [hsod₂, Sod.readSlot_setRead]
      have hbit := keyidIsCyclic_armKid keyId
      have hhead : reqHead (armKid keyId :: toList cr) = armKid keyId := rfl
      have hcyclic : (net₂.server.sod.readSlot idx).cyclic = true := by
        rw [hslot₂]
        exact hbit
      obtain ⟨hresponse, now', hs₂⟩ := fetch_served long hcyclic hok₂ hmove₂
      have hsod₃ : w'.net.server.sod = net₂.server.sod.setRead idx
          { net₂.server.sod.readSlot idx with prepared := [], armedAt := now' } := by
        rw [hserver₃]
        exact (congrArg Server.sod hstep₂).trans hs₂
      have hslot₃ : w'.net.server.sod.readSlot idx =
          { armedReadSlot client (armKid keyId :: toList cr) sr cipher tag now with
            prepared := []
            armedAt := now' } := by
        rw [hsod₃, Sod.readSlot_setRead, hslot₂]
      have hrandom : responseRandom response = sr := by
        rw [hresponse, hslot₂]
        exact slice_responseFrame
      have hkeys : w'.net.server.sod.keys = w.net.server.sod.keys := by
        rw [hsod₃, hsod₂]
        rfl
      have hregistry : w'.net.server.sod.registry = w.net.server.sod.registry := by
        rw [hsod₃, hsod₂]
        rfl
      refine ⟨idx, entry, ?_, rfl⟩
      exact
        { inUse := rfl
          target := rfl
          found := by rw [hregistry]; exact hf
          installed := by rw [hkeys]; exact (congrArg _ (keyidBase_armKid keyId)).trans installed
          owner := by rw [hslot₃]; rfl
          keyId := by rw [hslot₃]; simp [armedReadSlot, hhead, hbit, armedSession]
          ro := hro
          live := by rw [hslot₃]; rfl
          cyclic := by rw [hslot₃]; exact hbit
          base := by
            rw [hslot₃]
            simp [armedReadSlot, hhead, hbit, armedSession, hrandom, random_challenge]
          counter := by rw [hslot₃]; rfl }

/-! ## A write poll, at the server -/

/-- The data of the `write_after` calls that succeeded, in order. -/
def appliedData (calls : List Event) : List (List UInt8) :=
  calls.filterMap fun
    | .writeAfter _ src _ rc => if rc == abortNone then some src else none
    | _ => none

/-- The same, over a history. -/
def appliedIn (history : List Exchange) : List (List UInt8) :=
  history.flatMap fun x => appliedData x.calls

theorem appliedIn_append (history : List Exchange) (x : Exchange) :
    appliedIn (history ++ [x]) = appliedIn history ++ appliedData x.calls := by
  simp [appliedIn]

theorem appliedData_quiet {log : List Event} (h : Quiet log) : appliedData log = [] := by
  refine List.filterMap_eq_nil_iff.mpr fun e he => ?_
  have hquiet := h e he
  cases e with
  | writeAfter => cases hquiet
  | _ => rfl

/-- Every frame that verified is a poll's, under `key`. -/
def OnlyPolls (key : Key) (history : List Exchange) : Prop :=
  ∀ f ∈ opened history, f.call.direction = dirWritePollRequest ∧ f.call.key = key

theorem OnlyPolls.of_prefix {h h' : List Exchange} (honly : OnlyPolls key h') (hpre : h <+: h') :
    OnlyPolls key h := by
  obtain ⟨rest, rfl⟩ := hpre
  intro f hf
  refine honly f ?_
  simp only [opened, List.flatMap_append, List.mem_append]
  exact .inl hf

/-- What a frame with data does to the write slot of its entry: nothing but a teardown, and
    nothing is acknowledged, or it is the next poll and is applied. -/
inductive WritePollServed (gcm : Gcm) (P : Ports H) (s : Sod) (idx : Fin sodMaxEntries)
    (entry : SodEntry) (client : UInt16) (req : List UInt8) (key : Key) :
    List Event → SodResult → WriteSlot → Prop where
  | idle {log : List Event} {r : SodResult} {slot : WriteSlot} (applied : appliedData log = [])
      (silent : ∀ reply, answer r ≠ .ok reply)
      (base : slot.nonceBase = (s.writeSlot idx).nonceBase)
      (counter : slot.counter = (s.writeSlot idx).counter)
      (kept : slot.inUse = true → slot = s.writeSlot idx) :
      WritePollServed gcm P s idx entry client req key log r slot
  | applied {log : List Event} {plain : List UInt8} {now now' : UInt16}
      (checked : WritePollChecked s idx entry client req now key)
      (opened : aeadOpen gcm (writePollCall P (s.writeSlot idx) entry key)
        (writePollCipher entry req) (writePollTag entry req) = some plain)
      (applied : appliedData log = [plain]) :
      WritePollServed gcm P s idx entry client req key log (.ok [])
        { s.writeSlot idx with counter := (s.writeSlot idx).counter + 1, armedAt := now' }

/-- **A write poll at the server**, when nothing but polls verifies. -/
theorem writePoll_served {req : List UInt8} {arrival : UInt16} {s s' : Sod} {log : List Event}
    {r : SodResult} (hlen : readChallengeLen < req.length)
    (honly : OnlyPolls key [⟨client, dataId, req, r, log⟩])
    (h : Move gcm P client req arrival s idx entry log r s') :
    WritePollServed gcm P s idx entry client req key log r (s'.writeSlot idx) := by
  have hlong : 13 < req.length := hlen
  -- a Pass-2 frame that verifies is not a poll's
  have hnot : ∀ f ∈ openedFrames log, f.call.direction ≠ dirWriteRequest := by
    intro f hf hdir
    have hpoll := (honly f (by simpa [opened] using hf)).1
    rw [hdir] at hpoll
    exact absurd hpoll (by decide)
  cases h with
  | refused quiet =>
      exact .idle (appliedData_quiet quiet) (fun _ h => by cases h) rfl rfl fun _ => rfl
  | readArmFailed checked => exact absurd checked.len hlen.ne'
  | readArmed checked => exact absurd checked.len hlen.ne'
  | fetchDropped ro empty => simp [empty] at hlong
  | fetchedOnce ro empty => simp [empty] at hlong
  | fetchedCyclic ro empty => simp [empty] at hlong
  | readLapsed ro len => omega
  | readPollFailed checked => have := checked.len; omega
  | readPolled checked => have := checked.len; omega
  | writeArmed wo len => omega
  | pass2Dropped wo inUse len idle notPoll passive =>
      rw [Sod.writeSlot_setWrite]
      exact .idle (appliedData_quiet passive.quiet) (fun _ h => by cases h) rfl rfl
        fun h => by cases h
  | pass2Forged checked =>
      rw [Sod.writeSlot_setWrite]
      exact .idle rfl (fun _ h => by cases h) rfl rfl fun h => by cases h
  | pass2Refused => exact absurd rfl (hnot _ (List.mem_singleton_self _))
  | pass2Once => exact absurd rfl (hnot _ (List.mem_singleton_self _))
  | pass2Cyclic => exact absurd rfl (hnot _ (List.mem_singleton_self _))
  | writeLapsed =>
      rw [Sod.writeSlot_setWrite]
      exact .idle rfl (fun _ h => by cases h) rfl rfl fun h => by cases h
  | writePollForged =>
      exact .idle rfl (fun _ h => by cases h) rfl rfl fun _ => rfl
  | writePollRefused checked opened hook refusal =>
      refine .idle ?_ (fun _ h => by cases h) rfl rfl fun _ => rfl
      simp [appliedData, refusal]
  | @writePolled now now' key' plain keys host host' checked opened hook =>
      rw [Sod.writeSlot_setWrite]
      have hkey : key' = key := (honly ⟨writePollCall P (s.writeSlot idx) entry key',
        writePollCipher entry req, writePollTag entry req⟩ (by simp [SofaWrites.opened,
          openedFrames])).2
      subst hkey
      exact .applied checked opened rfl

/-! ## Write polls -/

/-- One write poll of the session. -/
def writeStep (gcm : Gcm) (P : Ports H) (client : UInt16) (random : C → Option Rand × C)
    (key : Key) (e : Polling (Channel C (Server H))) (plain : List UInt8) :
    Polling (Channel C (Server H)) :=
  pollStep gcm (link gcm P client random) e ⟨P.deviceId, key, plain⟩

/-- The data of the polls that returned OK, in order. -/
def acknowledged (history : List Poll) : List (List UInt8) :=
  history.filterMap fun p =>
    match p.result with
    | .ok _ => some p.call.plain
    | .error _ => none

theorem acknowledged_ok (history : List Poll) (c : PollCall) (tag : Tag)
    (calls : List ClientEvent) :
    acknowledged (history ++ [⟨c, .ok tag, calls⟩]) = acknowledged history ++ [c.plain] := by
  simp [acknowledged]

theorem acknowledged_error (history : List Poll) (c : PollCall) (e : SecpError)
    (calls : List ClientEvent) :
    acknowledged (history ++ [⟨c, .error e, calls⟩]) = acknowledged history := by
  simp [acknowledged]

/-- What the client's session and the server's slot have in common, while the slot lives. -/
structure WriteSide (client : UInt16) (dataId : UInt32) (idx : Fin sodMaxEntries)
    (entry : SodEntry) (sess : Session) (s : Sod) : Prop where
  inUse : sess.inUse = true
  target : sess.dataId = dataId
  found : s.registry.find dataId = some (idx, entry)
  owner : (s.writeSlot idx).inUse = true → (s.writeSlot idx).clientDev = client
  keyId : (s.writeSlot idx).inUse = true → (s.writeSlot idx).keyId = sess.keyId

/-- **The two ends of a write session**: what they share, the counters in step, and the data
    `out` of the polls that returned OK against what the server applied since `before`. -/
structure WriteLock (client : UInt16) (dataId : UInt32) (idx : Fin sodMaxEntries)
    (entry : SodEntry) (before : List Exchange) (sess : Session) (srv : Server H)
    (out : List (List UInt8)) : Prop where
  side : WriteSide client dataId idx entry sess srv.sod
  lock : Lockstep sess (srv.sod.writeSlot idx).nonceBase (srv.sod.writeSlot idx).counter
  tally : ∃ served, srv.history = before ++ served ∧
    Tally sess (srv.sod.writeSlot idx).counter (appliedIn served) out

/-- The server opens a poll with the call the client sealed it under. -/
theorem writePollCall_eq {sess : Session} {s : Sod}
    (side : WriteSide client dataId idx entry sess s)
    (lock : Lockstep sess (s.writeSlot idx).nonceBase (s.writeSlot idx).counter)
    (hlive : (s.writeSlot idx).inUse = true)
    (hcur : (s.writeSlot idx).counter = sess.counter) :
    nextWriteCall (link gcm P client random) P.deviceId key sess =
      writePollCall P (s.writeSlot idx) entry key := by
  have hentry : entry.dataId = dataId := find_dataId side.found
  simp only [nextWriteCall, writePollCall, clientCall, serverCall, lock.nonce hcur,
    side.keyId hlive, side.owner hlive, side.target, hentry]
  rfl

theorem writePollCipher_pollFrame {cipher : List UInt8} {tag : Tag} (n : Nat)
    (hlen : (pollFrame n cipher tag).length = pollLen entry) :
    writePollCipher entry (pollFrame n cipher tag) = cipher ∧
      writePollTag entry (pollFrame n cipher tag) = tag := by
  have hcipher : entry.dataLen = cipher.length := by
    rw [length_pollFrame, pollLen_eq] at hlen
    omega
  have hdata : (pollFrame n cipher tag).length - 1 - aeadTagSize = cipher.length := by
    show (pollFrame n cipher tag).length - 1 - 16 = cipher.length
    rw [length_pollFrame]
    omega
  constructor
  · rw [writePollCipher, hcipher, ← hdata]
    exact replyCipher_pollFrame n
  · rw [writePollTag, hcipher, ← hdata]
    exact replyTag_pollFrame n

/-- **The next poll at the server**: in step whether or not it is applied; and one that is
    acknowledged has been applied, with the data the client sealed. -/
theorem writeLock_served (gcm : Gcm) (P : Ports H) (random : C → Option Rand × C)
    (hg : gcm.Correct) {before : List Exchange} {sess : Session} {srv : Server H}
    {out : List (List UInt8)} (h : WriteLock client dataId idx entry before sess srv out)
    {plain cipher : List UInt8} {tag : Tag} (some_data : 1 ≤ plain.length)
    (sealed : aeadSeal gcm (nextWriteCall (link gcm P client random) P.deviceId key sess) plain =
      some (cipher, tag))
    (honly : OnlyPolls key ((servedBy gcm P client dataId
      (pollFrame (sess.counter + 1) cipher tag) srv).history.drop before.length)) :
    WriteLock client dataId idx entry before sess
        (servedBy gcm P client dataId (pollFrame (sess.counter + 1) cipher tag) srv) out ∧
      ((∃ reply, (sodService gcm P client dataId (pollFrame (sess.counter + 1) cipher tag)
          srv).1 = .ok reply) →
        WriteLock client dataId idx entry before { sess with counter := sess.counter + 1 }
          (servedBy gcm P client dataId (pollFrame (sess.counter + 1) cipher tag) srv)
          (out ++ [plain])) := by
  obtain ⟨side, lock, served, hhistory, tally⟩ := h
  obtain ⟨log, r, s', host, hmove, hanswer, hstep⟩ :=
    served_move (pollFrame (sess.counter + 1) cipher tag) side.found
  have hextended : ∀ x, srv.history ++ [x] = before ++ (served ++ [x]) := fun x => by
    rw [hhistory, List.append_assoc]
  rw [hstep, hextended, List.drop_left] at honly
  have hcipher : cipher.length = plain.length := length_aeadSeal sealed
  have hlong : readChallengeLen < (pollFrame (sess.counter + 1) cipher tag).length := by
    show 13 < (pollFrame (sess.counter + 1) cipher tag).length
    rw [length_pollFrame]
    omega
  have hthis : OnlyPolls key [⟨client, dataId, pollFrame (sess.counter + 1) cipher tag, r, log⟩] :=
    fun f hf => honly f (by
      simp only [SofaWrites.opened, List.flatMap_append, List.mem_append]
      exact .inr hf)
  have hserved := writePoll_served hlong hthis hmove
  have hfound : s'.registry.find dataId = some (idx, entry) := by
    rw [Move.registry hmove]
    exact side.found
  rw [hanswer, hstep]
  generalize hslot : s'.writeSlot idx = slot' at hserved
  cases hserved with
  | idle applied silent base counter kept =>
      refine ⟨⟨⟨side.inUse, side.target, hfound, ?_, ?_⟩, ?_, _, hextended _, ?_⟩,
        fun ⟨reply, hreply⟩ => absurd hreply (silent reply)⟩
      · rw [hslot]
        intro hlive
        have hsame := kept hlive
        rw [hsame] at hlive ⊢
        exact side.owner hlive
      · rw [hslot]
        intro hlive
        have hsame := kept hlive
        rw [hsame] at hlive ⊢
        exact side.keyId hlive
      · rw [hslot, base, counter]
        exact lock
      · rw [hslot, counter, appliedIn_append, applied, List.append_nil]
        exact tally
  | @applied plain' now now' checked opened applied =>
      have hcur : (srv.sod.writeSlot idx).counter = sess.counter := lock.current checked.counter
      -- the server opens what the client sealed
      have hplain : plain' = plain := by
        obtain ⟨hc, ht⟩ := writePollCipher_pollFrame _ checked.len
        rw [hc, ht, ← writePollCall_eq side lock checked.inUse hcur,
          aeadOpen_aeadSeal hg sealed] at opened
        exact (Option.some.inj opened).symm
      subst hplain
      have howner : ((srv.sod.writeSlot idx).clientDev = client) := side.owner checked.inUse
      have hkeyId : ((srv.sod.writeSlot idx).keyId = sess.keyId) := side.keyId checked.inUse
      refine ⟨⟨⟨side.inUse, side.target, hfound, ?_, ?_⟩, ?_, _, hextended _, ?_⟩,
        fun _ => ⟨⟨side.inUse, side.target, hfound, ?_, ?_⟩, ?_, _, hextended _, ?_⟩⟩
      · rw [hslot]
        exact fun _ => howner
      · rw [hslot]
        exact fun _ => hkeyId
      · rw [hslot]
        exact lock.server hcur checked.budget
      · rw [hslot, appliedIn_append, applied]
        exact tally.server hcur plain'
      · rw [hslot]
        exact fun _ => howner
      · rw [hslot]
        exact fun _ => hkeyId
      · rw [hslot]
        exact lock.both checked.budget
      · rw [hslot, appliedIn_append, applied]
        exact tally.both hcur plain'

/-- The server's history only grows with a write poll. -/
theorem writeStep_extends (e : Polling (Channel C (Server H))) (plain : List UInt8) :
    e.net.server.history <+: (writeStep gcm P client random key e plain).net.server.history := by
  have houtcome := pollWrite_outcome gcm (link gcm P client random) P.deviceId key e.session plain
    ⟨e.net, []⟩
  obtain ⟨log, -, hout⟩ := houtcome
  unfold writeStep pollStep
  dsimp only
  generalize securePollWrite gcm (link gcm P client random) P.deviceId key e.session plain
    ⟨e.net, []⟩ = r at hout
  obtain ⟨⟨res, sess'⟩, ⟨net', log'⟩⟩ := r
  dsimp only at hout ⊢
  have hsent : ∀ {d : UInt32} {frame : List UInt8} {r : Except SecpError Unit},
      (link gcm P client random).write P.deviceId d frame e.net = (r, net') →
        e.net.server.history <+: net'.server.history := by
    intro d frame r sent
    rcases write_cases sent with ⟨hsame, -⟩ | ⟨hserved, -⟩
    · rw [hsame]
    · rw [hserved]
      exact List.prefix_append _ _
  cases hout with
  | refused => exact List.prefix_refl _
  | unsealed => exact List.prefix_refl _
  | undelivered reached sealed sent => exact hsent sent
  | acknowledged reached sealed sent => exact hsent sent

/-- **One write poll keeps the two ends in step**, whatever the channel loses. -/
theorem writeStep_lock (hg : gcm.Correct) {before : List Exchange}
    {e : Polling (Channel C (Server H))}
    (h : WriteLock client dataId idx entry before e.session e.net.server (acknowledged e.history))
    (plain : List UInt8)
    (honly : OnlyPolls key ((writeStep gcm P client random key e plain).net.server.history.drop
      before.length)) :
    WriteLock client dataId idx entry before (writeStep gcm P client random key e plain).session
      (writeStep gcm P client random key e plain).net.server
      (acknowledged (writeStep gcm P client random key e plain).history) := by
  have houtcome := pollWrite_outcome gcm (link gcm P client random) P.deviceId key e.session plain
    ⟨e.net, []⟩
  obtain ⟨log, -, hout⟩ := houtcome
  unfold writeStep pollStep at honly ⊢
  dsimp only at honly ⊢
  generalize securePollWrite gcm (link gcm P client random) P.deviceId key e.session plain
    ⟨e.net, []⟩ = r at hout honly
  obtain ⟨⟨res, sess'⟩, ⟨net', log'⟩⟩ := r
  dsimp only at hout honly ⊢
  have hsize : reachesSeal e.session plain = true → 1 ≤ plain.length := fun reached => by
    simp only [reachesSeal, Bool.and_eq_true, decide_eq_true_eq] at reached
    exact reached.1.1.2
  cases hout with
  | refused =>
      rw [acknowledged_error]
      exact h
  | unsealed =>
      rw [acknowledged_error]
      exact h
  | undelivered reached sealed sent =>
      rw [h.side.target] at sent
      rw [acknowledged_error]
      rcases write_cases sent with ⟨hsame, -⟩ | ⟨hserved, -⟩
      · rw [hsame]
        exact h
      · rw [hserved] at honly ⊢
        exact (writeLock_served gcm P random hg h (hsize reached) sealed honly).1
  | acknowledged reached sealed sent =>
      rw [h.side.target] at sent
      rw [acknowledged_ok]
      rcases write_cases sent with ⟨-, e, he⟩ | ⟨hserved, hreply⟩
      · cases he
      · rw [hserved] at honly ⊢
        exact (writeLock_served gcm P random hg h (hsize reached) sealed honly).2 (hreply rfl)

/-- **What any write polls keep**, whatever is lost, when nothing but polls verifies. -/
theorem writes_lock (hg : gcm.Correct) {before : List Exchange}
    (plains : List (List UInt8)) {e : Polling (Channel C (Server H))}
    (h : WriteLock client dataId idx entry before e.session e.net.server (acknowledged e.history))
    (honly : OnlyPolls key ((run (writeStep gcm P client random key) e plains).net.server.history.drop
      before.length)) :
    WriteLock client dataId idx entry before
      (run (writeStep gcm P client random key) e plains).session
      (run (writeStep gcm P client random key) e plains).net.server
      (acknowledged (run (writeStep gcm P client random key) e plains).history) := by
  induction plains generalizing e with
  | nil => exact h
  | cons plain plains ih =>
      have hgrows : (writeStep gcm P client random key e plain).net.server.history <+:
          (run (writeStep gcm P client random key) e (plain :: plains)).net.server.history :=
        run_extends writeStep_extends _ plains
      exact ih (writeStep_lock hg h plain (honly.of_prefix (hgrows.drop _))) honly

/-- The seals of the polls are polls', under the key of the session. -/
theorem polls_sealed (gcm : Gcm) (P : Ports H) (client : UInt16) (random : C → Option Rand × C)
    (key : Key) (plains : List (List UInt8)) {e : Polling (Channel C (Server H))}
    (h : ∀ x ∈ pollSealings e.history, ∃ sess,
      x.call = nextWriteCall (link gcm P client random) P.deviceId key sess) :
    ∀ x ∈ pollSealings (run (writeStep gcm P client random key) e plains).history, ∃ sess,
      x.call = nextWriteCall (link gcm P client random) P.deviceId key sess := by
  refine run_induction (P := fun _ _ => True)
    (I := fun e => ∀ x ∈ pollSealings e.history, ∃ sess,
      x.call = nextWriteCall (link gcm P client random) P.deviceId key sess)
    (fun e plain he _ => ?_) h (along_of_forall (fun _ _ => trivial) e plains)
  obtain ⟨log, hlog, hout⟩ := pollWrite_outcome gcm (link gcm P client random) P.deviceId key
    e.session plain ⟨e.net, []⟩
  unfold writeStep pollStep
  dsimp only
  generalize securePollWrite gcm (link gcm P client random) P.deviceId key e.session plain
    ⟨e.net, []⟩ = r at hlog hout
  obtain ⟨⟨res, sess'⟩, ⟨net', log'⟩⟩ := r
  obtain rfl : log' = log := hlog
  intro x hx
  simp only [pollSealings, List.flatMap_append, List.mem_append, List.flatMap_cons,
    List.flatMap_nil, List.append_nil] at hx
  rcases hx with hx | hx
  · exact he x hx
  · cases hout with
    | refused => cases hx
    | unsealed => exact ⟨e.session, by rw [List.mem_singleton.mp hx]⟩
    | undelivered => exact ⟨e.session, by rw [List.mem_singleton.mp hx]⟩
    | acknowledged => exact ⟨e.session, by rw [List.mem_singleton.mp hx]⟩

/-- The seals that succeeded, as the ideal AEAD has them. -/
def sealsOf (history : List Poll) : List Seal :=
  (pollSealings history).filterMap fun
    | ⟨call, plain, some (cipher, tag)⟩ => some ⟨call, plain, cipher, tag⟩
    | _ => none

/-- The direction is the third byte of the AAD. -/
theorem aad_direction {c c' : AeadCall} {d d' : List UInt8} (h : c.aad d = c'.aad d') :
    c.direction = c'.direction := by
  have hthird := congrArg (fun l => l[2]?) h
  simp only [AeadCall.aad] at hthird
  split at hthird <;> split at hthird <;> simpa [aadBuild, aadPrefix] using hthird

/-- **Over the ideal AEAD nothing but the session's polls verifies.** -/
theorem onlyPolls_of_justified {served : List Exchange} {history : List Poll}
    (hseals : ∀ x ∈ pollSealings history, ∃ sess,
      x.call = nextWriteCall (link gcm P client random) P.deviceId key sess)
    (hideal : Justified (sealsOf history) served) : OnlyPolls key served := by
  intro f hf
  obtain ⟨σ, hσ, hj⟩ := hideal f hf
  obtain ⟨x, hx, hxσ⟩ := List.mem_filterMap.mp hσ
  have hcall : x.call = σ.call := by
    obtain ⟨call, plain, out⟩ := x
    cases out with
    | none => cases hxσ
    | some out =>
        cases hxσ
        rfl
  obtain ⟨sess, hsess⟩ := hseals x hx
  rw [hcall] at hsess
  refine ⟨?_, ?_⟩
  · rw [← aad_direction hj.aad, hsess]
    rfl
  · rw [← hj.key, hsess]
    rfl

/-! ## Write polls that succeed -/

/-- Both ends of a live session at the same counter. -/
structure WriteSynced (client : UInt16) (dataId : UInt32) (idx : Fin sodMaxEntries)
    (entry : SodEntry) (sess : Session) (s : Sod) : Prop
    extends WriteSide client dataId idx entry sess s where
  wo : entry.hasWo = true
  live : (s.writeSlot idx).inUse = true
  cyclic : (s.writeSlot idx).cyclic = true
  base : (s.writeSlot idx).nonceBase = sess.nonceBase
  counter : (s.writeSlot idx).counter = sess.counter

theorem WriteSynced.lockstep {sess : Session} {s : Sod}
    (h : WriteSynced client dataId idx entry sess s) (hlim : sess.counter ≤ keyUseLimit) :
    Lockstep sess (s.writeSlot idx).nonceBase (s.writeSlot idx).counter :=
  ⟨h.base, h.counter.ge, h.counter.le.trans (Nat.le_succ _), h.counter.le.trans hlim⟩

/-- The data has the entry's length, the session's key is installed and the session fresh
    when the next poll arrives, and the hooks take the data. -/
def WriteAccepted (P : Ports H) (idx : Fin sodMaxEntries) (entry : SodEntry) (key : Key)
    (e : Polling (Channel C (Server H))) (plain : List UInt8) : Prop :=
  1 ≤ entry.dataLen ∧ plain.length = entry.dataLen ∧
    e.net.server.sod.keys.getKey (keyidBase e.session.keyId) = some key ∧
    ageWithin (P.timeMs e.net.server.host).1 (e.net.server.sod.writeSlot idx).armedAt
      sessionIdleTimeoutMs = true ∧
    (P.roleAllowed .write (keyidBase e.session.keyId) entry.dataId
      (P.timeMs e.net.server.host).2).1 = true ∧
    (P.writeAfter entry.dataId plain e.net.server.sod.lastWriteKid e.net.server.sod.keys
      (hostAtWrite P (keyidBase e.session.keyId) entry.dataId e.net.server.host)).1 = abortNone

/-- **A write poll that is accepted**: it succeeds, and both ends count it. -/
theorem writeStep_synced (random : C → Option Rand × C) (hg : gcm.Correct) {e : Polling (Channel C (Server H))}
    (h : WriteSynced client dataId idx entry e.session e.net.server.sod)
    (lossless : e.net.Lossless) (budget : e.session.counter < keyUseLimit) {plain : List UInt8}
    (accepted : WriteAccepted P idx entry key e plain) :
    WriteSynced client dataId idx entry (writeStep gcm P client random key e plain).session
        (writeStep gcm P client random key e plain).net.server.sod ∧
      (writeStep gcm P client random key e plain).net.Lossless ∧
      (writeStep gcm P client random key e plain).session.counter = e.session.counter + 1 ∧
      ∃ p, (writeStep gcm P client random key e plain).history = e.history ++ [p] ∧
        ∃ tag, p.result = .ok tag := by
  obtain ⟨some_data, full, installed, fresh, role, taken⟩ := accepted
  obtain ⟨sess, ⟨c, srv, fates⟩, history⟩ := e
  have hdata : entry.dataLen ≤ aeadMaxProtected :=
    srv.sod.registry.protected_le _ (find_mem h.found)
  have hcall : nextWriteCall (link gcm P client random) P.deviceId key sess =
      writePollCall P (srv.sod.writeSlot idx) entry key :=
    writePollCall_eq h.toWriteSide (h.lockstep (Nat.le_of_lt budget)) h.live h.counter
  obtain ⟨cipher, tag, sealed⟩ := aeadSeal_isSome hg
    (nextWriteCall (link gcm P client random) P.deviceId key sess) (full.trans_le hdata)
  have hcipher : cipher.length = entry.dataLen := (length_aeadSeal sealed).trans full
  have hlen : (pollFrame (sess.counter + 1) cipher tag).length = pollLen entry := by
    rw [length_pollFrame, pollLen_eq, hcipher]
  obtain ⟨hc, ht⟩ := writePollCipher_pollFrame (sess.counter + 1) hlen
  have hopen : aeadOpen gcm (writePollCall P (srv.sod.writeSlot idx) entry key)
      (writePollCipher entry (pollFrame (sess.counter + 1) cipher tag))
      (writePollTag entry (pollFrame (sess.counter + 1) cipher tag)) = some plain := by
    rw [hc, ht, ← hcall]
    exact aeadOpen_aeadSeal hg sealed
  have hkeyId : (srv.sod.writeSlot idx).keyId = sess.keyId := h.keyId h.live
  have hverifies : WritePollVerifies gcm P srv.sod srv.host idx entry client
      (pollFrame (sess.counter + 1) cipher tag) key :=
    { wo := h.wo
      inUse := h.live
      cyclic := h.cyclic
      owner := h.owner h.live
      fresh := fresh
      len := hlen
      counter := by rw [h.counter]; rfl
      budget := by rw [h.counter]; exact budget
      installed := by rw [hkeyId]; exact installed
      allowed := by rw [hkeyId]; exact role
      opened := fun hnone => by cases hopen.symm.trans hnone }
  obtain ⟨keys, host', hook⟩ : ∃ keys host', P.writeAfter entry.dataId plain srv.sod.lastWriteKid
      srv.sod.keys (hostAtWrite P (keyidBase (srv.sod.writeSlot idx).keyId) entry.dataId srv.host) =
        (abortNone, keys, host') := by
    rw [hkeyId]
    exact ⟨_, _, Prod.ext taken rfl⟩
  obtain ⟨w', hdispatch, hsod⟩ : ∃ w' : World H,
      sodDispatch gcm P client dataId (pollFrame (sess.counter + 1) cipher tag) dispatchReplyMax
          ⟨srv.sod, srv.host, []⟩ = (.ok [], w') ∧
        w'.sod = (wrote srv.sod srv.sod.lastWriteKid keys).setWrite idx
          { srv.sod.writeSlot idx with
            inUse := true
            cyclic := true
            counter := (srv.sod.writeSlot idx).counter + 1
            armedAt := (P.timeMs host').1 } := by
    rw [dispatch_writePoll h.found h.wo hlen h.live h.cyclic]
    exact ⟨_, run_of_wp (writePoll_exec hverifies hopen hook (fun hrc => absurd rfl hrc)
      fun _ => ⟨rfl, rfl⟩), rfl⟩
  have hsent : (link gcm P client random).write P.deviceId dataId
      (pollFrame (sess.counter + 1) cipher tag) ⟨c, srv, fates⟩ = (.ok (), _) :=
    write_delivered (Channel.fate_lossless lossless) (sodService_of srv hdispatch)
  rw [← h.target] at hsent
  have hreached : reachesSeal sess plain = true := by
    have hlim : sess.counter < keyUseLimit := budget
    simp only [reachesSeal, Bool.and_eq_true, decide_eq_true_eq]
    exact ⟨⟨⟨h.inUse, full.ge.trans' some_data⟩, full.trans_le hdata⟩, hlim⟩
  have hrun := pollWrite_exec [] hreached sealed hsent
  unfold writeStep pollStep
  dsimp only
  rw [hrun]
  have hslot : w'.sod.writeSlot idx = { srv.sod.writeSlot idx with
      inUse := true
      cyclic := true
      counter := (srv.sod.writeSlot idx).counter + 1
      armedAt := (P.timeMs host').1 } := by
    rw [hsod, Sod.writeSlot_setWrite]
  refine ⟨?_, Channel.lossless_tail lossless, rfl, _, rfl, _, rfl⟩
  exact
    { inUse := h.inUse
      target := h.target
      found := by rw [hsod]; exact h.found
      owner := by rw [hslot]; exact fun _ => h.owner h.live
      keyId := by rw [hslot]; exact fun _ => hkeyId
      wo := h.wo
      live := by rw [hslot]
      cyclic := by rw [hslot]
      base := by rw [hslot]; exact h.base
      counter := by rw [hslot]; exact congrArg (· + 1) h.counter }

/-- **Write polls that are accepted all succeed**, up to the use limit. -/
theorem writes_succeed (hg : gcm.Correct) (plains : List (List UInt8))
    {e : Polling (Channel C (Server H))}
    (h : WriteSynced client dataId idx entry e.session e.net.server.sod)
    (lossless : e.net.Lossless) (budget : e.session.counter + plains.length ≤ keyUseLimit)
    (accepted : Along (writeStep gcm P client random key) (WriteAccepted P idx entry key) e plains)
    (sofar : ∀ p ∈ e.history, ∃ tag, p.result = .ok tag) :
    ∀ p ∈ (run (writeStep gcm P client random key) e plains).history, ∃ tag, p.result = .ok tag := by
  induction plains generalizing e with
  | nil => exact sofar
  | cons plain plains ih =>
      rw [List.length_cons] at budget
      obtain ⟨hsynced, hlossless, hcounter, p, hhistory, hok⟩ :=
        writeStep_synced random hg h lossless (by omega) accepted.1
      refine ih hsynced hlossless (by omega) accepted.2 ?_
      rw [hhistory]
      intro q hq
      rcases List.mem_append.mp hq with hq | hq
      · exact sofar q hq
      · rw [List.mem_singleton.mp hq]
        exact hok

/-! ## Arming a write session -/

/-- A reply that is held is a whole response. -/
def HeldWhole (s : Sod) : Prop :=
  ∀ i, (s.readSlot i).prepared = [] ∨ 28 ≤ (s.readSlot i).prepared.length

theorem heldWhole_move {req : List UInt8} {arrival : UInt16} {s s' : Sod} {log : List Event}
    {r : SodResult} (h : Move gcm P client req arrival s idx entry log r s') (hs : HeldWhole s) :
    HeldWhole s' := by
  intro j
  by_cases hj : j = idx
  · subst hj
    cases h with
    | readArmFailed =>
        rw [Sod.readSlot_setRead]
        exact .inl rfl
    | readArmed =>
        rw [Sod.readSlot_setRead]
        right
        simp only [armedReadSlot, List.length_append, length_toList]
        omega
    | fetchDropped =>
        rw [Sod.readSlot_setRead]
        exact hs j
    | fetchedOnce =>
        rw [Sod.readSlot_setRead]
        exact hs j
    | fetchedCyclic =>
        rw [Sod.readSlot_setRead]
        exact .inl rfl
    | readLapsed =>
        rw [Sod.readSlot_setRead]
        exact hs j
    | readPolled =>
        rw [Sod.readSlot_setRead]
        exact hs j
    | _ => exact hs j
  · rw [Move.readSlot_of_ne h hj]
    exact hs j

/-- The server only ever holds whole responses. -/
theorem heldWhole_after (gcm : Gcm) (P : Ports H) (host : H) (inputs : List (Input H)) :
    HeldWhole (after gcm P host inputs).sod := by
  refine run_induction (P := fun _ _ => True) (I := fun srv : Server H => HeldWhole srv.sod)
    (fun srv a hsrv _ => ?_) (fun i => .inl rfl) (along_of_forall (fun _ _ => trivial) _ inputs)
  cases a with
  | request client dataId req replyMax =>
      rcases request_cases gcm P srv client dataId req replyMax with
        ⟨-, -, hstep⟩ | ⟨i, e, log, r, s', host', -, hmove, -, hstep⟩
      · rw [hstep]
        exact hsrv
      · rw [hstep]
        exact heldWhole_move hmove hsrv
  | registerEntry entry =>
      simp only [step]
      split <;> exact hsrv
  | setKeyEx keyId key idVal =>
      simp only [step]
      split <;> exact hsrv
  | clearKeys => exact hsrv
  | application host' => exact hsrv

/-- An empty request that is answered with a challenge has armed the slot. -/
theorem writeChallenge_served {reply : List UInt8} {arrival : UInt16} {s s' : Sod}
    {log : List Event} {r : SodResult} (hheld : HeldWhole s) (hsize : reply.length = 12)
    (hok : answer r = .ok reply) (h : Move gcm P client [] arrival s idx entry log r s') :
    entry.hasWo = true ∧ ∃ sr now, reply = toList sr ∧
      s' = s.setWrite idx (armedWriteSlot client none sr now) := by
  -- a prepared reply is no challenge
  have hprepared : (s.readSlot idx).prepared ≠ [] → (s.readSlot idx).prepared ≠ reply := by
    rintro hne rfl
    rcases hheld idx with hnil | hlong
    · exact hne hnil
    · omega
  cases h with
  | refused => cases hok
  | readArmFailed => cases hok
  | readArmed checked => exact absurd checked.len (by decide)
  | fetchDropped => cases hok
  | fetchedOnce ro empty inUse ready =>
      cases hok
      exact absurd rfl (hprepared ready)
  | fetchedCyclic ro empty inUse ready =>
      cases hok
      exact absurd rfl (hprepared ready)
  | readLapsed => cases hok
  | readPollFailed => cases hok
  | readPolled checked => exact absurd checked.len (by decide)
  | @writeArmed pre mid wire sr now wo len idle kid =>
      cases hok
      obtain rfl : wire = none := kid
      exact ⟨wo, sr, now, rfl, rfl⟩
  | pass2Dropped => cases hok
  | pass2Forged => cases hok
  | pass2Refused => cases hok
  | pass2Once checked => exact absurd (pass2Len_long checked.len) (by decide)
  | pass2Cyclic checked => exact absurd (pass2Len_long checked.len) (by decide)
  | writeLapsed => cases hok
  | writePollForged => cases hok
  | writePollRefused => cases hok
  | writePolled checked => exact absurd (pollLen_long checked.len) (by decide)

/-- A Pass-2 frame that is acknowledged on a fresh challenge, and asks for a session, has
    opened it. -/
theorem pass2_served {cr : Rand} {cipher reply : List UInt8} {tag : Tag} {arrival : UInt16}
    {s s' : Sod} {log : List Event} {r : SodResult} (hcyclic : keyidIsCyclic kid = true)
    (hfresh : (s.writeSlot idx).cyclic = false) (hok : answer r = .ok reply)
    (h : Move gcm P client (requestFrame kid cr cipher tag) arrival s idx entry log r s') :
    (s.writeSlot idx).inUse = true ∧ ∃ keys now,
      s' = Sod.setWrite { s with keys := keys, lastWriteKid := keyidBase kid } idx
        { s.writeSlot idx with
          cyclic := true
          keyId := kid
          nonceBase := aeadXorNonce cr (s.writeSlot idx).serverRandom
          counter := 0
          armedAt := now } := by
  have hlen : (requestFrame kid cr cipher tag).length = cipher.length + 29 := by
    simp only [requestFrame, List.length_append, List.length_cons, length_toList]
    omega
  cases h with
  | refused => cases hok
  | readArmFailed => cases hok
  | readArmed checked =>
      have hthirteen : (requestFrame kid cr cipher tag).length = 13 := checked.len
      omega
  | fetchDropped => cases hok
  | fetchedOnce ro empty => simp [empty] at hlen
  | fetchedCyclic ro empty => simp [empty] at hlen
  | readLapsed => cases hok
  | readPollFailed => cases hok
  | readPolled checked =>
      have hone := checked.len
      omega
  | writeArmed wo len => omega
  | pass2Dropped => cases hok
  | pass2Forged => cases hok
  | pass2Refused => cases hok
  | pass2Once checked opened hook single =>
      have hkid : reqHead (requestFrame kid cr cipher tag) = kid := rfl
      rw [hkid, hcyclic] at single
      cases single
  | @pass2Cyclic now now' key plain keys host host' checked =>
      refine ⟨checked.inUse, keys, now', ?_⟩
      rw [random_request]
      rfl
  | writeLapsed => cases hok
  | writePollForged => cases hok
  | writePollRefused => cases hok
  | writePolled checked =>
      rw [checked.cyclic] at hfresh
      cases hfresh

/-- **A write session that was armed**: both ends hold it, at counter 0. -/
theorem armed_write_synced {w w' : ClientWorld (Channel C (Server H))} {keyId : UInt8}
    {plain : List UInt8} {sess : Session} (hheld : HeldWhole w.net.server.sod)
    (armed : secureWriteArmed gcm (link gcm P client random) P.deviceId dataId key keyId plain w =
      (.ok sess, w')) :
    ∃ idx entry, WriteSynced client dataId idx entry sess w'.net.server.sod ∧
      sess.counter = 0 := by
  obtain ⟨nonce, hflow, rfl⟩ : ∃ nonce, writeFlow gcm (link gcm P client random) P.deviceId dataId
      key (armKid keyId) plain w = (.ok nonce, w') ∧ sess = armedSession dataId keyId nonce := by
    have harmed : wp (secureWriteArmed gcm (link gcm P client random) P.deviceId dataId key keyId
        plain) (fun r t => r = .ok sess ∧ t = w') w := by
      unfold wp
      rw [armed]
      exact ⟨rfl, rfl⟩
    unfold secureWriteArmed at harmed
    rw [wp_ite, wp_ite] at harmed
    by_cases hrefused : keyidRefused keyId = true
    · cases (harmed.1 hrefused).1
    have hsized := harmed.2 hrefused
    by_cases hsize : (plain.length == 0 || decide (plain.length > aeadMaxProtected)) = true
    · cases (hsized.1 hsize).1
    have hmatch := hsized.2 hsize
    rw [wp_bind] at hmatch
    cases hrun : writeFlow gcm (link gcm P client random) P.deviceId dataId key (armKid keyId) plain
        w with
    | mk res t =>
        unfold wp at hmatch
        rw [hrun] at hmatch
        cases res with
        | error e => cases hmatch.1
        | ok out =>
            obtain ⟨hres, ht⟩ := hmatch
            cases hres
            cases ht
            exact ⟨out, rfl, rfl⟩
  have hwp : wp (writeFlow gcm (link gcm P client random) P.deviceId dataId key (armKid keyId)
      plain) _ w := writeFlow_outcome w
  obtain ⟨log, -, hout⟩ := wp_run hwp hflow
  cases hout with
  | @acknowledged cr net₁ net₂ net' challenge cipher tag got size draw sealed sent =>
      -- the challenge
      rcases read_cases got with ⟨-, e, he⟩ | ⟨hserver₁, hanswer⟩
      · cases he
      obtain ⟨idx, entry, log₁, r₁, s₁, host₁, hf, hmove₁, hok₁, hstep₁⟩ :=
        served_ok (hanswer challenge rfl)
      obtain ⟨hwo, sr, now, rfl, hs₁⟩ := writeChallenge_served hheld size hok₁ hmove₁
      have hsod₁ : net₁.server.sod = w.net.server.sod.setWrite idx
          (armedWriteSlot client none sr now) := by
        rw [hserver₁]
        exact (congrArg Server.sod hstep₁).trans hs₁
      have hsame : net₂.server = net₁.server := (congrArg (fun r => r.2.server) draw).symm
      -- the Pass-2 frame
      rcases write_cases sent with ⟨-, e, he⟩ | ⟨hserver₃, hreply⟩
      · cases he
      obtain ⟨reply, hreply⟩ := hreply rfl
      rw [hsame] at hserver₃ hreply
      obtain ⟨idx', entry', log₂, r₂, s₂, host₂, hf', hmove₂, hok₂, hstep₂⟩ := served_ok hreply
      have hfound : (idx, entry) = (idx', entry') := by
        rw [hsod₁] at hf'
        exact Option.some.inj (hf.symm.trans hf')
      cases hfound
      have hslot₁ : net₁.server.sod.writeSlot idx = armedWriteSlot client none sr now := by
        rw [hsod₁, Sod.writeSlot_setWrite]
      have hsingle : (net₁.server.sod.writeSlot idx).cyclic = false := by
        rw [hslot₁]
        rfl
      obtain ⟨-, keys, now', hs₂⟩ :=
        pass2_served (keyidIsCyclic_armKid keyId) hsingle hok₂ hmove₂
      have hsod₃ : w'.net.server.sod = s₂ := by
        rw [hserver₃]
        exact congrArg Server.sod hstep₂
      have hslot₃ : w'.net.server.sod.writeSlot idx =
          { armedWriteSlot client none sr now with
            cyclic := true
            keyId := armKid keyId
            nonceBase := aeadXorNonce cr sr
            counter := 0
            armedAt := now' } := by
        rw [hsod₃, hs₂, Sod.writeSlot_setWrite, hslot₁]
        rfl
      have hregistry : w'.net.server.sod.registry = w.net.server.sod.registry := by
        rw [hsod₃, hs₂, hsod₁]
        rfl
      refine ⟨idx, entry, ?_, rfl⟩
      exact
        { inUse := rfl
          target := rfl
          found := by rw [hregistry]; exact hf
          owner := by rw [hslot₃]; exact fun _ => rfl
          keyId := by rw [hslot₃]; exact fun _ => rfl
          wo := hwo
          live := by rw [hslot₃]; rfl
          cyclic := by rw [hslot₃]
          base := by rw [hslot₃]; simp [armedSession]
          counter := by rw [hslot₃]; rfl }

/-! ## The session, from the arming call on -/

/-- The client right after it armed a read session. -/
def armedReading (sess : Session) (w : ClientWorld (Channel C (Server H))) : Reading C H :=
  ⟨sess, w.net, []⟩

/-- The client right after it armed a write session. -/
def armedPolling (sess : Session) (w : ClientWorld (Channel C (Server H))) :
    Polling (Channel C (Server H)) :=
  ⟨sess, w.net, []⟩

/-- A session armed a moment ago is in lockstep. -/
theorem ReadSynced.armed_lock {sess : Session} {srv : Server H}
    (h : ReadSynced client dataId idx entry key sess srv.sod) (hzero : sess.counter = 0) :
    ReadLock client dataId idx entry key srv.history sess srv [] where
  side := h.toReadSide
  lock := h.lockstep (by omega)
  tally := ⟨[], (List.append_nil _).symm, by rw [h.counter, hzero]; rfl,
    ⟨by rw [h.counter, hzero]; rfl, hzero.symm, [], by simp, rfl⟩⟩

theorem WriteSynced.armed_lock {sess : Session} {srv : Server H}
    (h : WriteSynced client dataId idx entry sess srv.sod) (hzero : sess.counter = 0) :
    WriteLock client dataId idx entry srv.history sess srv [] where
  side := h.toWriteSide
  lock := h.lockstep (by omega)
  tally := ⟨[], (List.append_nil _).symm, by rw [h.counter, hzero]; rfl, hzero.symm, [], by simp,
    rfl⟩

/-- **Read sessions in lockstep**, from the arming call on. -/
theorem read_lockstep (hg : gcm.Correct) {w w' : ClientWorld (Channel C (Server H))}
    {keyId : UInt8} {bufSize : Nat} {plain : List UInt8} {sess : Session}
    (installed : w.net.server.sod.keys.getKey (keyidBase keyId) = some key)
    (armed : secureReadArmed gcm (link gcm P client random) P.deviceId dataId key keyId bufSize w =
      (.ok (plain, sess), w')) :
    ∃ idx entry, w'.net.server.sod.registry.find dataId = some (idx, entry) ∧
      ∀ maxs, let e := run (readStep gcm P client random key) (armedReading sess w') maxs
        ReadLock client dataId idx entry key w'.net.server.history e.session e.net.server
            (returned e.history) ∧
          (w'.net.Lossless → maxs.length ≤ keyUseLimit →
            Along (readStep gcm P client random key) (ReadAccepted P idx entry)
              (armedReading sess w') maxs →
            ∀ r ∈ e.history, ∃ out, r = .ok out) := by
  obtain ⟨idx, entry, synced, hzero⟩ := armed_read_synced installed armed
  refine ⟨idx, entry, synced.found, fun maxs => ⟨?_, fun lossless budget accepted => ?_⟩⟩
  · exact reads_lock (e := armedReading sess w') hg (synced.armed_lock hzero) maxs
  · have hbudget : sess.counter + maxs.length ≤ keyUseLimit := by rwa [hzero, Nat.zero_add]
    exact reads_succeed (e := armedReading sess w') hg maxs synced lossless hbudget accepted
      (fun r hr => by cases hr)

/-- **Write sessions in lockstep**, from the arming call on. -/
theorem write_lockstep (hg : gcm.Correct) {w w' : ClientWorld (Channel C (Server H))}
    {keyId : UInt8} {plain : List UInt8} {sess : Session} (hheld : HeldWhole w.net.server.sod)
    (armed : secureWriteArmed gcm (link gcm P client random) P.deviceId dataId key keyId plain w =
      (.ok sess, w')) :
    ∃ idx entry, w'.net.server.sod.registry.find dataId = some (idx, entry) ∧
      ∀ plains, let e := run (writeStep gcm P client random key) (armedPolling sess w') plains
        (Justified (sealsOf e.history)
            (e.net.server.history.drop w'.net.server.history.length) →
          WriteLock client dataId idx entry w'.net.server.history e.session e.net.server
            (acknowledged e.history)) ∧
        (w'.net.Lossless → plains.length ≤ keyUseLimit →
          Along (writeStep gcm P client random key) (WriteAccepted P idx entry key)
            (armedPolling sess w') plains →
          ∀ p ∈ e.history, ∃ tag, p.result = .ok tag) := by
  obtain ⟨idx, entry, synced, hzero⟩ := armed_write_synced hheld armed
  refine ⟨idx, entry, synced.found, fun plains => ⟨fun hideal => ?_, fun lossless budget accepted => ?_⟩⟩
  · have hseals := polls_sealed gcm P client random key plains (e := armedPolling sess w')
      (fun x hx => by cases hx)
    exact writes_lock (e := armedPolling sess w') hg plains (synced.armed_lock hzero)
      (onlyPolls_of_justified hseals hideal)
  · have hbudget : sess.counter + plains.length ≤ keyUseLimit := by rwa [hzero, Nat.zero_add]
    exact writes_succeed (e := armedPolling sess w') hg plains synced lossless hbudget accepted
      (fun r hr => by cases hr)

/-- **Lockstep.**  A server after any run, a client that holds the key installed there, and a
    channel that loses what it likes.  From an arming call that succeeded on, after any polls:
    the two ends hold one nonce base, the server's counter is the client's or one more, and
    neither passes the use limit; what the read polls returned is, poll by poll, what the
    server sealed under that counter; and over the ideal AEAD the data of the write polls that
    returned OK is what `write_after` took, call by call, short of one last call at most.
    When nothing is lost and the hooks accept, every poll up to the use limit succeeds. -/
theorem session_lockstep (hg : gcm.Correct) {host : H} {inputs : List (Input H)}
    {w : ClientWorld (Channel C (Server H))} {keyId : UInt8}
    (reached : w.net.server = after gcm P host inputs)
    (installed : w.net.server.sod.keys.getKey (keyidBase keyId) = some key) :
    (∀ bufSize plain sess w',
      secureReadArmed gcm (link gcm P client random) P.deviceId dataId key keyId bufSize w =
        (.ok (plain, sess), w') →
      ∃ idx entry, w'.net.server.sod.registry.find dataId = some (idx, entry) ∧
        ∀ maxs, let e := run (readStep gcm P client random key) (armedReading sess w') maxs
          ReadLock client dataId idx entry key w'.net.server.history e.session e.net.server
              (returned e.history) ∧
            (w'.net.Lossless → maxs.length ≤ keyUseLimit →
              Along (readStep gcm P client random key) (ReadAccepted P idx entry)
                (armedReading sess w') maxs →
              ∀ r ∈ e.history, ∃ out, r = .ok out)) ∧
    (∀ plain sess w',
      secureWriteArmed gcm (link gcm P client random) P.deviceId dataId key keyId plain w =
        (.ok sess, w') →
      ∃ idx entry, w'.net.server.sod.registry.find dataId = some (idx, entry) ∧
        ∀ plains, let e := run (writeStep gcm P client random key) (armedPolling sess w') plains
          (Justified (sealsOf e.history)
              (e.net.server.history.drop w'.net.server.history.length) →
            WriteLock client dataId idx entry w'.net.server.history e.session e.net.server
              (acknowledged e.history)) ∧
          (w'.net.Lossless → plains.length ≤ keyUseLimit →
            Along (writeStep gcm P client random key) (WriteAccepted P idx entry key)
              (armedPolling sess w') plains →
            ∀ p ∈ e.history, ∃ tag, p.result = .ok tag)) := by
  have hheld : HeldWhole w.net.server.sod := by
    rw [reached]
    exact heldWhole_after gcm P host inputs
  exact ⟨fun _ _ _ _ armed => read_lockstep hg installed armed,
    fun _ _ _ armed => write_lockstep hg hheld armed⟩

/-! ## Two worked sessions -/

/-- A channel that loses the reply of the third round trip. -/
def sampleLossy : ClientWorld (Channel (List Rand) (Server (List Rand))) :=
  ⟨{ sampleChannel with fates := [.delivered, .delivered, .replyLost] }, []⟩

/-- The read session armed over it. -/
def sampleReadArmed :=
  secureReadArmed sampleGcm (link sampleGcm sampleReader 20 sampleDraw) sampleReader.deviceId
    0x20100000 sampleKey 1 32 sampleLossy

/-- The write session armed over it. -/
def sampleWriteArmed :=
  secureWriteArmed sampleGcm (link sampleGcm sampleReader 20 sampleDraw) sampleReader.deviceId
    0x20100000 sampleKey 1 [5, 6, 7, 8] sampleLossy

/-- The client's read session, as the arming call left it. -/
def sampleReading : Session := sampleReadArmed.1.toOption.elim {} (·.2)

/-- The client's write session, as the arming call left it. -/
def sampleWriting : Session := sampleWriteArmed.1.toOption.elim {} id

/-- Two read polls, the answer to the first of them lost. -/
def sampleReadRun : Reading (List Rand) (List Rand) :=
  run (readStep sampleGcm sampleReader 20 sampleDraw sampleKey)
    (armedReading sampleReading sampleReadArmed.2) [32, 32]

/-- Two write polls, the answer to the first of them lost. -/
def sampleWriteRun : Polling (Channel (List Rand) (Server (List Rand))) :=
  run (writeStep sampleGcm sampleReader 20 sampleDraw sampleKey)
    (armedPolling sampleWriting sampleWriteArmed.2) [[5, 6, 7, 8], [1, 1, 1, 1]]

/-- A result and the state it left. -/
theorem pair_of_fst {α β : Type} {p : α × β} {a : α} (h : p.1 = a) : p = (a, p.2) :=
  Prod.ext h rfl

/-- The lost answer leaves either server one ahead of its client for good. -/
theorem sampleSession_lockstep :
    (Lockstep sampleReadRun.session (sampleReadRun.net.server.sod.readSlot 0).nonceBase
        (sampleReadRun.net.server.sod.readSlot 0).counter ∧
      sampleReadRun.session.counter = 0 ∧
      (sampleReadRun.net.server.sod.readSlot 0).counter = 1) ∧
    (Lockstep sampleWriteRun.session (sampleWriteRun.net.server.sod.writeSlot 0).nonceBase
        (sampleWriteRun.net.server.sod.writeSlot 0).counter ∧
      sampleWriteRun.session.counter = 0 ∧
      (sampleWriteRun.net.server.sod.writeSlot 0).counter = 1) := by
  have hread : sampleReadArmed.1 = .ok ([1, 2, 3, 4], sampleReading) := by
    have hplain : sampleReadArmed.1.toOption.map (·.1) = some [1, 2, 3, 4] := by decide +kernel
    unfold sampleReading
    cases h : sampleReadArmed.1 with
    | error e => rw [h] at hplain; cases hplain
    | ok armed =>
      rw [h] at hplain
      exact congrArg _ (Prod.ext (Option.some.inj hplain) rfl)
  have hwrite : sampleWriteArmed.1 = .ok sampleWriting := by
    have hok : sampleWriteArmed.1.toOption.isSome = true := by decide +kernel
    unfold sampleWriting
    cases h : sampleWriteArmed.1 with
    | error e => rw [h] at hok; cases hok
    | ok sess => rfl
  obtain ⟨reads, writes⟩ := @session_lockstep _ _ sampleGcm sampleReader 20 sampleDraw 0x20100000
    sampleKey sampleGcm_correct [sampleRand 5, sampleRand 6]
    [.registerEntry sampleReadWrite, .setKeyEx 1 sampleKey 1] sampleLossy 1 rfl (by decide +kernel)
  have hentry : sampleReadArmed.2.net.server.sod.registry.find 0x20100000 =
      some (0, sampleReadWrite) := by decide +kernel
  have hentry' : sampleWriteArmed.2.net.server.sod.registry.find 0x20100000 =
      some (0, sampleReadWrite) := by decide +kernel
  have hread' : sampleReadArmed = (.ok ([1, 2, 3, 4], sampleReading), sampleReadArmed.2) :=
    pair_of_fst hread
  have hwrite' : sampleWriteArmed = (.ok sampleWriting, sampleWriteArmed.2) :=
    pair_of_fst hwrite
  obtain ⟨idx, entry, hfind, hpolls⟩ := reads 32 [1, 2, 3, 4] sampleReading sampleReadArmed.2 hread'
  obtain ⟨idx', entry', hfind', hpolls'⟩ :=
    writes [5, 6, 7, 8] sampleWriting sampleWriteArmed.2 hwrite'
  have hideal : Justified (sealsOf sampleWriteRun.history)
      (sampleWriteRun.net.server.history.drop sampleWriteArmed.2.net.server.history.length) := by
    decide +kernel
  cases hentry.symm.trans hfind
  cases hentry'.symm.trans hfind'
  have hreads : Lockstep sampleReadRun.session (sampleReadRun.net.server.sod.readSlot 0).nonceBase
      (sampleReadRun.net.server.sod.readSlot 0).counter := by
    rw [sampleReadRun]
    exact (hpolls [32, 32]).1.lock
  have hwrites : Lockstep sampleWriteRun.session
      (sampleWriteRun.net.server.sod.writeSlot 0).nonceBase
      (sampleWriteRun.net.server.sod.writeSlot 0).counter := by
    rw [sampleWriteRun] at hideal ⊢
    exact ((hpolls' [[5, 6, 7, 8], [1, 1, 1, 1]]).1 hideal).lock
  have hahead : sampleReadRun.session.counter = 0 ∧
      (sampleReadRun.net.server.sod.readSlot 0).counter = 1 := by decide +kernel
  have hahead' : sampleWriteRun.session.counter = 0 ∧
      (sampleWriteRun.net.server.sod.writeSlot 0).counter = 1 := by decide +kernel
  exact ⟨⟨hreads, hahead⟩, ⟨hwrites, hahead'⟩⟩

end SofaLockstep
