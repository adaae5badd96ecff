import Sofa.Verbs
import Sofa.Lockstep

/-! # What a write verb tells, and what the device did

    The client runs against the server over a channel that loses what it likes.  A call that
    returned OK was taken by `write_after` once, with the data that was given to the verb; a call
    that failed was not taken, unless it failed by a timeout.  The cyclic verb stops at the first
    failure, so only its last call can be in doubt.

    * `writeFlow_told`, `pollWrite_told`: the two kinds of calls;
    * `write_once_told`, `write_poll_told`: a single write and a cyclic one;
    * **`write_verbs_told`**: both, against a server after any run. -/

namespace SofaVerbs

open ByteBlock SofaConfig SofaAead SofaOd SofaMoves SofaServer SofaReads SofaWrites SofaWriteFrames
  SofaExec SofaClient SofaClientMoves SofaClientNonce SofaChannel SofaHonest SofaDevice
  SofaLockstep StateWp

variable {H C : Type} {gcm : Gcm} {P : Ports H} {client : UInt16} {random : C → Option Rand × C}
  {idx : Fin sodMaxEntries} {entry : SodEntry} {dataId : UInt32} {key : Key} {kid : UInt8}
  {plain : List UInt8}

/-! ## One call of the device -/

/-- The device took the data and acknowledged it, or did neither. -/
inductive Took (plain : List UInt8) (log : List Event) (r : SodResult) : Prop
  | taken (applied : appliedData log = [plain]) (acked : answer r = .ok [])
  | refused (applied : appliedData log = []) (code : Abort) (denied : answer r = .error code)

theorem appliedData_append (log more : List Event) :
    appliedData (log ++ more) = appliedData log ++ appliedData more :=
  List.filterMap_append

/-- A request that is too short for data takes none. -/
theorem applied_short {req : List UInt8} {arrival : UInt16} {s s' : Sod} {log : List Event}
    {r : SodResult} (hlen : req.length ≤ readChallengeLen)
    (h : Move gcm P client req arrival s idx entry log r s') :
    appliedData log = [] ∧ s'.keys = s.keys := by
  have hshort : ¬ readChallengeLen < req.length := Nat.not_lt.mpr hlen
  cases h with
  | refused quiet => exact ⟨appliedData_quiet quiet, rfl⟩
  | readArmFailed checked =>
      rw [appliedData_append, appliedData_quiet checked.passive.quiet]
      exact ⟨rfl, rfl⟩
  | readArmed checked =>
      rw [appliedData_append, appliedData_quiet checked.passive.quiet]
      exact ⟨rfl, rfl⟩
  | fetchDropped => exact ⟨rfl, rfl⟩
  | fetchedOnce => exact ⟨rfl, rfl⟩
  | fetchedCyclic => exact ⟨rfl, rfl⟩
  | readLapsed => exact ⟨rfl, rfl⟩
  | readPollFailed checked passive =>
      rw [appliedData_append, appliedData_quiet passive.quiet]
      exact ⟨rfl, rfl⟩
  | readPolled checked passive =>
      rw [appliedData_append, appliedData_quiet passive.quiet]
      exact ⟨rfl, rfl⟩
  | @writeArmed pre mid wire sr now wo len idle kid binding passive passive' =>
      refine ⟨appliedData_quiet ?_, rfl⟩
      simp only [quiet_append, quiet_cons, quiet_nil, passive.quiet, passive'.quiet, EventQuiet,
        EventPassive, and_self]
  | pass2Dropped wo inUse len idle notPoll passive => exact ⟨appliedData_quiet passive.quiet, rfl⟩
  | pass2Forged checked => exact absurd (pass2Len_long checked.len) hshort
  | pass2Refused checked => exact absurd (pass2Len_long checked.len) hshort
  | pass2Once checked => exact absurd (pass2Len_long checked.len) hshort
  | pass2Cyclic checked => exact absurd (pass2Len_long checked.len) hshort
  | writeLapsed wo len => exact absurd (pollLen_long len) hshort
  | writePollForged checked => exact absurd (pollLen_long checked.len) hshort
  | writePollRefused checked => exact absurd (pollLen_long checked.len) hshort
  | writePolled checked => exact absurd (pollLen_long checked.len) hshort

/-- `write_after` of this object leaves the key in its place. -/
def KeepsKey (P : Ports H) (dataId : UInt32) (base : UInt8) (key : Key) : Prop :=
  ∀ plain kid keys host, keys.getKey base = some key →
    (P.writeAfter dataId plain kid keys host).2.1.getKey base = some key

theorem KeepsKey.hook {base : UInt8} (h : KeepsKey P dataId base key) {kid : UInt8} {rc : Abort}
    {keys keys' : KeyStore} {host host' : H}
    (hook : P.writeAfter dataId plain kid keys host = (rc, keys', host'))
    (held : keys.getKey base = some key) : keys'.getKey base = some key := by
  have hkeep := h plain kid keys host held
  rw [hook] at hkeep
  exact hkeep

/-- **A Pass-2 frame on the challenge that was fetched for it** is taken as it was sealed and
    acknowledged, or refused. -/
theorem pass2_took (hg : gcm.Correct) {cr sr : Rand} {cipher : List UInt8} {tag : Tag}
    {arrival armedAt : UInt16} {s s' : Sod} {log : List Event} {r : SodResult}
    (hslot : s.writeSlot idx = armedWriteSlot client none sr armedAt)
    (hentry : entry.dataId = dataId) (held : s.keys.getKey (keyidBase kid) = some key)
    (hkeep : KeepsKey P dataId (keyidBase kid) key) (some_data : 1 ≤ plain.length)
    (sealed : aeadSeal gcm (requestCall (link gcm P client random) P.deviceId dataId key kid cr sr)
      plain = some (cipher, tag))
    (h : Move gcm P client (requestFrame kid cr cipher tag) arrival s idx entry log r s') :
    Took plain log r ∧ s'.keys.getKey (keyidBase kid) = some key ∧
      (answer r = .ok [] → plain.length = entry.dataLen) := by
  have hcipher : cipher.length = plain.length := length_aeadSeal sealed
  have hlen : (requestFrame kid cr cipher tag).length = cipher.length + 29 := by
    simp only [requestFrame, List.length_append, List.length_cons, length_toList]
    omega
  have hidle : (s.writeSlot idx).cyclic = false := by
    rw [hslot]
    rfl
  -- a frame that verifies gives back what the client sealed
  have hplain : ∀ {key' : Key} {out : List UInt8} {now : UInt16},
      Pass2Checked P s idx entry (requestFrame kid cr cipher tag) now key' →
      aeadOpen gcm (pass2Call P (s.writeSlot idx) entry (requestFrame kid cr cipher tag) key')
        (pass2Cipher entry (requestFrame kid cr cipher tag))
        (pass2Tag entry (requestFrame kid cr cipher tag)) = some out →
      out = plain ∧ plain.length = entry.dataLen := by
    intro key' out now checked opened
    have hdata : cipher.length = entry.dataLen := by
      have hfull : (requestFrame kid cr cipher tag).length = entry.dataLen + 29 := by
        have hpass2 := checked.len
        simp only [pass2Len, aeadRandSize, aeadTagSize] at hpass2
        omega
      omega
    have hkey : key' = key := Option.some.inj (checked.installed.symm.trans held)
    have hcall : pass2Call P (s.writeSlot idx) entry (requestFrame kid cr cipher tag) key =
        requestCall (link gcm P client random) P.deviceId dataId key kid cr sr := by
      rw [hslot, pass2Call, random_request, hentry]
      rfl
    rw [hkey, hcall, cipher_request hdata, tag_request hdata, aeadOpen_aeadSeal hg sealed] at opened
    exact ⟨(Option.some.inj opened).symm, hcipher.symm.trans hdata⟩
  cases h with
  | refused quiet =>
      exact ⟨.refused (appliedData_quiet quiet) _ rfl, held, fun hok => by cases hok⟩
  | readArmFailed checked =>
      have hthirteen : (requestFrame kid cr cipher tag).length = 13 := checked.len
      omega
  | readArmed checked =>
      have hthirteen : (requestFrame kid cr cipher tag).length = 13 := checked.len
      omega
  | fetchDropped ro empty => simp [empty] at hlen
  | fetchedOnce ro empty => simp [empty] at hlen
  | fetchedCyclic ro empty => simp [empty] at hlen
  | readLapsed ro len => omega
  | readPollFailed checked =>
      have hone := checked.len
      omega
  | readPolled checked =>
      have hone := checked.len
      omega
  | writeArmed wo len => omega
  | pass2Dropped wo inUse len idle notPoll passive =>
      exact ⟨.refused (appliedData_quiet passive.quiet) _ rfl, held, fun hok => by cases hok⟩
  | pass2Forged => exact ⟨.refused rfl _ rfl, held, fun hok => by cases hok⟩
  | pass2Refused checked opened hook refusal =>
      refine ⟨.refused ?_ _ rfl, (hentry ▸ hkeep).hook hook held, fun hok => by cases hok⟩
      simp [appliedData, refusal]
  | pass2Once checked opened hook =>
      obtain ⟨rfl, hfull⟩ := hplain checked opened
      exact ⟨.taken rfl rfl, (hentry ▸ hkeep).hook hook held, fun _ => hfull⟩
  | pass2Cyclic checked opened hook =>
      obtain ⟨rfl, hfull⟩ := hplain checked opened
      exact ⟨.taken rfl rfl, (hentry ▸ hkeep).hook hook held, fun _ => hfull⟩
  | writeLapsed wo len inUse cyclic =>
      rw [hidle] at cyclic
      cases cyclic
  | writePollForged checked =>
      have hcyclic := checked.cyclic
      rw [hidle] at hcyclic
      cases hcyclic
  | writePollRefused checked =>
      have hcyclic := checked.cyclic
      rw [hidle] at hcyclic
      cases hcyclic
  | writePolled checked =>
      have hcyclic := checked.cyclic
      rw [hidle] at hcyclic
      cases hcyclic

/-- **The next poll of a session that both ends hold** is taken as it was sealed and acknowledged,
    and the session counts it; or it is refused. -/
theorem poll_took (hg : gcm.Correct) {sess : Session} {cipher : List UInt8} {tag : Tag}
    {arrival : UInt16} {s s' : Sod} {log : List Event} {r : SodResult}
    (synced : WriteSynced client dataId idx entry sess s) (hlim : sess.counter ≤ keyUseLimit)
    (held : s.keys.getKey (keyidBase sess.keyId) = some key)
    (hkeep : KeepsKey P dataId (keyidBase sess.keyId) key) (some_data : 1 ≤ plain.length)
    (full : plain.length = entry.dataLen)
    (sealed : aeadSeal gcm (nextWriteCall (link gcm P client random) P.deviceId key sess) plain =
      some (cipher, tag))
    (h : Move gcm P client (pollFrame (sess.counter + 1) cipher tag) arrival s idx entry log r s') :
    Took plain log r ∧ s'.keys.getKey (keyidBase sess.keyId) = some key ∧
      (answer r = .ok [] →
        WriteSynced client dataId idx entry { sess with counter := sess.counter + 1 } s') := by
  have hentry : entry.dataId = dataId := find_dataId synced.found
  have hcipher : cipher.length = plain.length := length_aeadSeal sealed
  have hlen : (pollFrame (sess.counter + 1) cipher tag).length = entry.dataLen + 17 := by
    rw [length_pollFrame, hcipher, full]
  have hkeyId : (s.writeSlot idx).keyId = sess.keyId := synced.keyId synced.live
  have hnot : ∀ {now : UInt16} {key' : Key},
      ¬ Pass2Checked P s idx entry (pollFrame (sess.counter + 1) cipher tag) now key' := by
    intro now key' checked
    have hpass2 := checked.len
    simp only [pass2Len, aeadRandSize, aeadTagSize] at hpass2
    omega
  have hkey : ∀ {now : UInt16} {key' : Key}, WritePollChecked s idx entry client
      (pollFrame (sess.counter + 1) cipher tag) now key' → key' = key := by
    intro now key' checked
    have hinstalled := checked.installed
    rw [hkeyId] at hinstalled
    exact Option.some.inj (hinstalled.symm.trans held)
  have hregistry := Move.registry h
  cases h with
  | refused quiet =>
      exact ⟨.refused (appliedData_quiet quiet) _ rfl, held, fun hok => by cases hok⟩
  | readArmFailed checked =>
      have hthirteen : (pollFrame (sess.counter + 1) cipher tag).length = 13 := checked.len
      omega
  | readArmed checked =>
      have hthirteen : (pollFrame (sess.counter + 1) cipher tag).length = 13 := checked.len
      omega
  | fetchDropped ro empty => simp [empty] at hlen
  | fetchedOnce ro empty => simp [empty] at hlen
  | fetchedCyclic ro empty => simp [empty] at hlen
  | readLapsed ro len => omega
  | readPollFailed checked =>
      have hone := checked.len
      omega
  | readPolled checked =>
      have hone := checked.len
      omega
  | writeArmed wo len => omega
  | pass2Dropped wo inUse len idle notPoll passive =>
      exact ⟨.refused (appliedData_quiet passive.quiet) _ rfl, held, fun hok => by cases hok⟩
  | pass2Forged checked => exact absurd checked hnot
  | pass2Refused checked => exact absurd checked hnot
  | pass2Once checked => exact absurd checked hnot
  | pass2Cyclic checked => exact absurd checked hnot
  | writeLapsed => exact ⟨.refused rfl _ rfl, held, fun hok => by cases hok⟩
  | writePollForged => exact ⟨.refused rfl _ rfl, held, fun hok => by cases hok⟩
  | writePollRefused checked opened hook refusal =>
      refine ⟨.refused ?_ _ rfl, (hentry ▸ hkeep).hook hook held, fun hok => by cases hok⟩
      simp [appliedData, refusal]
  | @writePolled now now' key' out keys host host' checked opened hook =>
      have hout : out = plain := by
        obtain ⟨hc, ht⟩ := writePollCipher_pollFrame (sess.counter + 1) checked.len
        rw [hkey checked, hc, ht,
          ← writePollCall_eq synced.toWriteSide (synced.lockstep hlim) synced.live synced.counter,
          aeadOpen_aeadSeal hg sealed] at opened
        exact (Option.some.inj opened).symm
      subst hout
      refine ⟨.taken rfl rfl, (hentry ▸ hkeep).hook hook held, fun _ => ?_⟩
      have hslot : (Sod.setWrite { s with keys := keys } idx { s.writeSlot idx with
          counter := (s.writeSlot idx).counter + 1, armedAt := now' }).writeSlot idx =
            { s.writeSlot idx with
              counter := (s.writeSlot idx).counter + 1, armedAt := now' } :=
        Sod.writeSlot_setWrite _ idx _
      exact
        { inUse := synced.inUse
          target := synced.target
          found := by rw [hregistry]; exact synced.found
          owner := by rw [hslot]; exact fun _ => synced.owner synced.live
          keyId := by rw [hslot]; exact fun _ => hkeyId
          wo := synced.wo
          live := by rw [hslot]; exact synced.live
          cyclic := by rw [hslot]; exact synced.cyclic
          base := by rw [hslot]; exact synced.base
          counter := by rw [hslot]; exact congrArg (· + 1) synced.counter }

/-! ## One call of the client -/

/-- What a call tells its caller, and what the device took during it: the data when the call is
    OK, nothing when it failed, and after a timeout either. -/
inductive Told {α : Type} (plain : List UInt8) : Except SecpError α → List (List UInt8) → Prop
  | done (a : α) : Told plain (.ok a) [plain]
  | failed (e : SecpError) : Told plain (.error e) []
  | unknown : Told plain (.error .timeout) [plain]

/-- The device took `taken` between two states. -/
def Taken (s s' : Server H) (taken : List (List UInt8)) : Prop :=
  ∃ served, s'.history = s.history ++ served ∧ appliedIn served = taken

theorem taken_same (s : Server H) : Taken s s [] := ⟨[], (List.append_nil _).symm, rfl⟩

theorem Taken.trans {s₁ s₂ s₃ : Server H} {taken more : List (List UInt8)} (h : Taken s₁ s₂ taken)
    (h' : Taken s₂ s₃ more) : Taken s₁ s₃ (taken ++ more) := by
  obtain ⟨served, hhistory, rfl⟩ := h
  obtain ⟨served', hhistory', rfl⟩ := h'
  refine ⟨served ++ served', ?_, ?_⟩
  · rw [hhistory', hhistory, List.append_assoc]
  · rw [appliedIn, appliedIn, appliedIn, List.flatMap_append]

/-- One request. -/
theorem taken_exchange {srv s' : Server H} (body : List UInt8) (r : SodResult) (log : List Event)
    (h : s'.history = srv.history ++ [⟨client, dataId, body, r, log⟩]) :
    Taken srv s' (appliedData log) := by
  refine ⟨[⟨client, dataId, body, r, log⟩], h, ?_⟩
  rw [appliedIn, List.flatMap_singleton]

/-- What a failed call tells does not depend on what it would have returned. -/
theorem Told.error {α β : Type} {e : SecpError} {taken : List (List UInt8)}
    (h : Told plain (.error e : Except SecpError α) taken) :
    Told plain (.error e : Except SecpError β) taken := by
  cases h with
  | failed e => exact .failed e
  | unknown => exact .unknown

theorem Told.ok {α β : Type} {a : α} {taken : List (List UInt8)} (b : β)
    (h : Told plain (.ok a : Except SecpError α) taken) :
    Told plain (.ok b : Except SecpError β) taken := by
  cases h with
  | done a => exact .done b

/-- **A frame over the channel**: it was lost, or the server has it; and unless the client ran into
    a timeout it knows what the server answered. -/
theorem write_told {body : List UInt8} {ch ch' : Channel C (Server H)} {device : UInt16}
    {res : Except SecpError Unit}
    (h : (link gcm P client random).write device dataId body ch = (res, ch')) :
    (ch'.server = ch.server ∧ res = .error .timeout) ∨
    (ch'.server = servedBy gcm P client dataId body ch.server ∧
      (res = .error .timeout ∨
        res = ((sodService gcm P client dataId body ch.server).1.mapError .abort).map
          fun _ => ())) := by
  obtain rfl : ((ch.carry (sodService gcm P) client dataId body).1.map fun _ => ()) = res :=
    congrArg Prod.fst h
  obtain rfl : (ch.carry (sodService gcm P) client dataId body).2 = ch' := congrArg Prod.snd h
  cases hfate : ch.fate with
  | requestLost =>
      refine .inl ?_
      simp only [Channel.carry, hfate]
      exact ⟨trivial, rfl⟩
  | replyLost =>
      refine .inr ?_
      simp only [Channel.carry, hfate]
      exact ⟨rfl, .inl rfl⟩
  | delivered =>
      refine .inr ?_
      simp only [Channel.carry, hfate]
      exact ⟨rfl, .inr trivial⟩

/-- What the client is told of a call that the device took or refused. -/
theorem Took.told {log : List Event} {r : SodResult} (h : Took plain log r)
    {res : Except SecpError Unit}
    (hres : res = .error .timeout ∨
      res = ((answer r).mapError SecpError.abort).map fun _ => ()) :
    Told plain res (appliedData log) ∧ (res = .ok () → answer r = .ok []) := by
  cases h with
  | taken applied acked =>
      rw [applied]
      rcases hres with rfl | rfl
      · exact ⟨.unknown, fun hok => by cases hok⟩
      · rw [acked]
        exact ⟨.done (), fun _ => rfl⟩
  | refused applied code denied =>
      rw [applied]
      rcases hres with rfl | rfl
      · exact ⟨.failed _, fun hok => by cases hok⟩
      · rw [denied]
        exact ⟨.failed _, fun hok => by cases hok⟩

/-- The key of a write, as the device holds it. -/
def Held (dataId : UInt32) (key : Key) (base : UInt8) (plain : List UInt8) (s : Sod) : Prop :=
  s.keys.getKey base = some key ∧
    ∃ idx entry, s.registry.find dataId = some (idx, entry) ∧ plain.length = entry.dataLen

/-- A request that is too short for data, whatever it is for. -/
theorem short_taken (gcm : Gcm) (P : Ports H) (client : UInt16) (dataId : UInt32)
    {body : List UInt8} (hlen : body.length ≤ readChallengeLen) (srv : Server H) :
    Taken srv (servedBy gcm P client dataId body srv) [] := by
  rcases request_cases gcm P srv client dataId body dispatchReplyMax with
    ⟨-, -, hstep⟩ | ⟨idx, entry, log, r, s', host, -, hmove, -, hstep⟩
  · rw [servedBy, hstep]
    exact taken_exchange body .notHandled [] rfl
  · rw [servedBy, hstep, ← (applied_short hlen hmove).1]
    exact taken_exchange body r log rfl

/-- **Challenge, seal and delivery**, over a channel that loses what it likes. -/
theorem writeFlow_told (random : C → Option Rand × C) (hg : gcm.Correct)
    {w : ClientWorld (Channel C (Server H))}
    (hwhole : HeldWhole w.net.server.sod)
    (held : w.net.server.sod.keys.getKey (keyidBase kid) = some key)
    (hkeep : KeepsKey P dataId (keyidBase kid) key) (some_data : 1 ≤ plain.length) :
    wp (writeFlow gcm (link gcm P client random) P.deviceId dataId key kid plain)
      (fun res w' => ∃ taken, Taken w.net.server w'.net.server taken ∧ Told plain res taken ∧
        ∀ nonce, res = .ok nonce → Held dataId key (keyidBase kid) plain w'.net.server.sod) w := by
  unfold writeFlow
  simp only [wp_bind, wp_transportRead]
  intro got ch₁ hgot
  -- the request for the challenge takes nothing
  have hnothing : Taken w.net.server ch₁.server [] := by
    rcases read_cases hgot with ⟨hsame, -⟩ | ⟨hserved, -⟩
    · rw [hsame]
      exact taken_same _
    · rw [hserved]
      exact short_taken gcm P client dataId (by decide) _
  have hfailed : ∀ {e : SecpError} {ch : Channel C (Server H)}, ch.server = ch₁.server →
      ∃ taken, Taken w.net.server ch.server taken ∧
        Told plain (.error e : Except SecpError Nonce) taken ∧
        ∀ nonce, (.error e : Except SecpError Nonce) = .ok nonce →
          Held dataId key (keyidBase kid) plain ch.server.sod := by
    intro e ch hsame
    refine ⟨[], ?_, .failed e, fun nonce hok => by cases hok⟩
    rw [hsame]
    exact hnothing
  cases got with
  | error e => exact hfailed rfl
  | ok challenge =>
      simp only [wp_ite, wp_pure, wp_bind, wp_drawRandom]
      refine ⟨fun _ => hfailed rfl, fun hsize => ?_⟩
      simp only [bne_iff_ne, ne_eq, not_not] at hsize
      intro cr ch₂ hdraw
      have hsame : ch₂.server = ch₁.server := (congrArg (fun r => r.2.server) hdraw).symm
      cases cr with
      | none => exact hfailed hsame
      | some cr =>
          simp only [wp_bind, wp_clientSeal]
          intro out hseal
          cases out with
          | none => exact hfailed hsame
          | some sealed =>
              obtain ⟨cipher, tag⟩ := sealed
              simp only [wp_bind, wp_transportWrite]
              intro res ch₃ hsent
              -- the slot that the challenge armed
              rcases read_cases hgot with ⟨-, e, he⟩ | ⟨hserver₁, hanswer⟩
              · cases he
              obtain ⟨idx, entry, log₁, r₁, s₁, host₁, hf, hmove₁, hok₁, hstep₁⟩ :=
                served_ok (hanswer challenge rfl)
              obtain ⟨-, sr, now, rfl, hs₁⟩ := writeChallenge_served hwhole hsize hok₁ hmove₁
              rw [slice_toList] at hseal
              have hsod : ch₂.server.sod = w.net.server.sod.setWrite idx
                  (armedWriteSlot client none sr now) := by
                rw [hsame, hserver₁]
                exact (congrArg Server.sod hstep₁).trans hs₁
              have hslot : ch₂.server.sod.writeSlot idx = armedWriteSlot client none sr now := by
                rw [hsod, Sod.writeSlot_setWrite]
              have hfound : ch₂.server.sod.registry.find dataId = some (idx, entry) := by
                rw [hsod]
                exact hf
              have hheld : ch₂.server.sod.keys.getKey (keyidBase kid) = some key := by
                rw [hsod]
                exact held
              have hframe : kid :: toList cr ++ cipher ++ toList tag =
                  requestFrame kid cr cipher tag := rfl
              rw [hframe] at hsent
              rcases write_told hsent with ⟨hlost, rfl⟩ | ⟨hserver₃, hres⟩
              · exact hfailed (hlost.trans hsame)
              obtain ⟨log, r, s', host, hmove, hservice, hstep⟩ :=
                served_move (requestFrame kid cr cipher tag) hfound
              obtain ⟨htook, hkey, hfull⟩ := pass2_took hg hslot (find_dataId hf) hheld hkeep
                some_data hseal hmove
              rw [hservice] at hres
              obtain ⟨htold, hacked⟩ := htook.told hres
              have htaken : Taken w.net.server ch₃.server (appliedData log) := by
                rw [hserver₃, hstep]
                rw [← hsame] at hnothing
                exact hnothing.trans (taken_exchange _ r log rfl)
              cases res with
              | error e => exact ⟨_, htaken, htold.error, fun nonce hok => by cases hok⟩
              | ok u =>
                  refine ⟨_, htaken, htold.ok _, fun nonce _ => ?_⟩
                  show Held dataId key (keyidBase kid) plain ch₃.server.sod
                  rw [hserver₃, hstep]
                  refine ⟨hkey, idx, entry, ?_, hfull (hacked rfl)⟩
                  rw [Move.registry hmove]
                  exact hfound

/-- **A poll of a session that both ends hold**, over a channel that loses what it likes. -/
theorem pollWrite_told (random : C → Option Rand × C) (hg : gcm.Correct)
    {w : ClientWorld (Channel C (Server H))} {sess : Session}
    (synced : WriteSynced client dataId idx entry sess w.net.server.sod)
    (held : w.net.server.sod.keys.getKey (keyidBase sess.keyId) = some key)
    (hkeep : KeepsKey P dataId (keyidBase sess.keyId) key) (some_data : 1 ≤ plain.length)
    (full : plain.length = entry.dataLen) :
    wp (securePollWrite gcm (link gcm P client random) P.deviceId key sess plain)
      (fun r w' => ∃ taken, Taken w.net.server w'.net.server taken ∧ Told plain r.1 taken ∧
        ∀ tag, r.1 = .ok tag → sess.counter < keyUseLimit ∧
          r.2 = { sess with counter := sess.counter + 1 } ∧
          WriteSynced client dataId idx entry r.2 w'.net.server.sod ∧
          w'.net.server.sod.keys.getKey (keyidBase sess.keyId) = some key) w := by
  refine wp_mono (pollWrite_outcome gcm (link gcm P client random) P.deviceId key sess plain w) ?_
  rintro ⟨res, sess'⟩ ⟨ch', log'⟩ ⟨log, -, hout⟩
  dsimp only at hout ⊢
  have hsent : ∀ {cipher : List UInt8} {tag : Tag} {r : Except SecpError Unit},
      reachesSeal sess plain = true →
      aeadSeal gcm (nextWriteCall (link gcm P client random) P.deviceId key sess) plain =
        some (cipher, tag) →
      (link gcm P client random).write P.deviceId sess.dataId
        (pollFrame (sess.counter + 1) cipher tag) w.net = (r, ch') →
      ∃ taken, Taken w.net.server ch'.server taken ∧ Told plain r taken ∧
        (r = .ok () → sess.counter < keyUseLimit ∧
          WriteSynced client dataId idx entry { sess with counter := sess.counter + 1 }
            ch'.server.sod ∧
          ch'.server.sod.keys.getKey (keyidBase sess.keyId) = some key) := by
    intro cipher tag r reached sealed sent
    have hbudget : sess.counter < keyUseLimit := by
      simp only [reachesSeal, Bool.and_eq_true, decide_eq_true_eq] at reached
      exact reached.2
    rw [synced.target] at sent
    rcases write_told sent with ⟨hlost, rfl⟩ | ⟨hserver, hres⟩
    · refine ⟨[], ?_, .failed _, fun hok => by cases hok⟩
      rw [hlost]
      exact taken_same _
    obtain ⟨calls, answered, s', host, hmove, hservice, hstep⟩ :=
      served_move (pollFrame (sess.counter + 1) cipher tag) synced.found
    obtain ⟨htook, hkey, hnext⟩ := poll_took hg synced (Nat.le_of_lt hbudget) held hkeep some_data
      full sealed hmove
    rw [hservice] at hres
    obtain ⟨htold, hacked⟩ := htook.told hres
    rw [hserver, hstep]
    exact ⟨_, taken_exchange _ answered calls rfl, htold,
      fun hok => ⟨hbudget, hnext (hacked hok), hkey⟩⟩
  cases hout with
  | refused => exact ⟨[], taken_same _, .failed _, fun tag hok => by cases hok⟩
  | unsealed => exact ⟨[], taken_same _, .failed _, fun tag hok => by cases hok⟩
  | undelivered reached sealed sent =>
      obtain ⟨taken, htaken, htold, -⟩ := hsent reached sealed sent
      exact ⟨taken, htaken, htold.error, fun tag hok => by cases hok⟩
  | acknowledged reached sealed sent =>
      obtain ⟨taken, htaken, htold, hnext⟩ := hsent reached sealed sent
      obtain ⟨hbudget, hsynced, hkey⟩ := hnext rfl
      exact ⟨taken, htaken, htold.ok _, fun tag _ => ⟨hbudget, rfl, hsynced, hkey⟩⟩

/-! ## The verbs -/

/-- What a run of polls tells, and what the device took during it. -/
inductive ToldAll (plain : List UInt8) :
    List (Except SecpError (List UInt8)) → List (List UInt8) → Prop
  | done : ToldAll plain [] []
  | ok {results : List (Except SecpError (List UInt8))} {taken : List (List UInt8)}
      (rest : ToldAll plain results taken) : ToldAll plain (.ok [] :: results) (plain :: taken)
  | stopped {e : SecpError} {taken : List (List UInt8)}
      (last : Told plain (.error e : Except SecpError (List UInt8)) taken) :
      ToldAll plain [.error e] taken

/-- All calls succeeded. -/
theorem ToldAll.all {plains taken : List (List UInt8)} (h : ToldAll plain (plains.map .ok) taken) :
    plains.map .ok = List.replicate plains.length (.ok [] : Except SecpError (List UInt8)) ∧
      taken = List.replicate plains.length plain := by
  induction plains generalizing taken with
  | nil =>
      cases h with
      | done => exact ⟨rfl, rfl⟩
  | cons shown plains ih =>
      rw [List.map_cons] at h
      cases h with
      | ok rest =>
          obtain ⟨hresults, rfl⟩ := ih rest
          rw [List.map_cons, hresults, List.length_cons, List.replicate_succ, List.replicate_succ]
          exact ⟨rfl, rfl⟩

/-- The last call failed. -/
theorem ToldAll.cut {plains taken : List (List UInt8)} {e : SecpError}
    (h : ToldAll plain (plains.map .ok ++ [.error e]) taken) :
    plains.map .ok = List.replicate plains.length (.ok [] : Except SecpError (List UInt8)) ∧
      (taken = List.replicate plains.length plain ∨
        e = .timeout ∧ taken = List.replicate (plains.length + 1) plain) := by
  induction plains generalizing taken with
  | nil =>
      refine ⟨rfl, ?_⟩
      cases h with
      | stopped last =>
          cases last with
          | failed => exact .inl rfl
          | unknown => exact .inr ⟨rfl, rfl⟩
  | cons shown plains ih =>
      rw [List.map_cons, List.cons_append] at h
      cases h with
      | ok rest =>
          obtain ⟨hresults, htaken⟩ := ih rest
          rw [List.map_cons, hresults, List.length_cons, List.replicate_succ]
          refine ⟨rfl, ?_⟩
          rcases htaken with rfl | ⟨he, rfl⟩
          · exact .inl (List.replicate_succ).symm
          · exact .inr ⟨he, (List.replicate_succ).symm⟩

/-- **The polls of a cyclic write.** -/
theorem polled_told (hg : gcm.Correct) {sess : Session} {w w' : ClientWorld (Channel C (Server H))}
    {results : List (Except SecpError (List UInt8))}
    (synced : WriteSynced client dataId idx entry sess w.net.server.sod)
    (held : w.net.server.sod.keys.getKey (keyidBase sess.keyId) = some key)
    (hkeep : KeepsKey P dataId (keyidBase sess.keyId) key) (some_data : 1 ≤ plain.length)
    (full : plain.length = entry.dataLen)
    (h : Polled (writeCall gcm (link gcm P client random) P.deviceId key plain) sess w results w') :
    ∃ taken, Taken w.net.server w'.net.server taken ∧ ToldAll plain results taken := by
  induction h with
  | done => exact ⟨[], taken_same _, .done⟩
  | @ok sess sess' w w₁ w' shown results call rest ih =>
      obtain ⟨r, hrun, hshown⟩ := writeCall_run call
      obtain ⟨taken, htaken, htold, hnext⟩ :=
        wp_run (pollWrite_told random hg synced held hkeep some_data full) hrun
      cases r with
      | error e => cases hshown
      | ok tag =>
          cases hshown
          obtain ⟨-, rfl, hsynced, hheld⟩ := hnext tag rfl
          obtain ⟨more, hmore, hrest⟩ := ih hsynced hheld hkeep
          refine ⟨taken ++ more, htaken.trans hmore, ?_⟩
          cases htold with
          | done => exact .ok hrest
  | @stopped sess sess' w w' e call =>
      obtain ⟨r, hrun, hshown⟩ := writeCall_run call
      obtain ⟨taken, htaken, htold, -⟩ :=
        wp_run (pollWrite_told random hg synced held hkeep some_data full) hrun
      cases r with
      | ok tag => cases hshown
      | error e =>
          cases hshown
          exact ⟨taken, htaken, .stopped htold.error⟩

/-- How a write verb ends that was to make `calls` calls, the rows it told, and what the device
    took: all of them succeeded and each was taken once; or one failed, those before it were
    taken, and it was not, unless it ran into a timeout. -/
inductive WriteVerdict (calls : Nat) (plain : List UInt8) (report : Report)
    (taken : List (List UInt8)) : Prop
  | all (exit : report.exit = 0) (told : report.results = List.replicate calls (.ok []))
      (rows : ∀ quiet dataId, report.rows quiet dataId =
        if quiet then [] else List.replicate calls .closed)
      (applied : taken = List.replicate calls plain) (budget : calls ≤ keyUseLimit + 1)
  | cut (k : Nat) (e : SecpError) (early : k < calls) (exit : report.exit = exitCode e)
      (nonzero : report.exit ≠ 0) (told : report.results = List.replicate k (.ok []) ++ [.error e])
      (rows : ∀ quiet dataId, report.rows quiet dataId =
        if quiet then [] else List.replicate k .closed ++ [.closed, failRow e])
      (applied : taken = List.replicate k plain ∨
        e = .timeout ∧ taken = List.replicate (k + 1) plain)

/-- The rows follow from the results. -/
theorem WriteVerdict.ended {calls : Nat} {report : Report} {taken : List (List UInt8)}
    (exit : report.exit = 0) (told : report.results = List.replicate calls (.ok []))
    (applied : taken = List.replicate calls plain) (budget : calls ≤ keyUseLimit + 1) :
    WriteVerdict calls plain report taken := by
  refine .all exit told (fun quiet dataId => ?_) applied budget
  have hplains : report.results = (List.replicate calls []).map .ok := by
    rw [told, List.map_replicate]
  rw [Report.rows_all hplains, List.map_replicate]
  rfl

theorem WriteVerdict.stopped {calls : Nat} {report : Report} {taken : List (List UInt8)}
    {e : SecpError} (k : Nat) (early : k < calls) (exit : report.exit = exitCode e)
    (told : report.results = List.replicate k (.ok []) ++ [.error e])
    (applied : taken = List.replicate k plain ∨
      e = .timeout ∧ taken = List.replicate (k + 1) plain) :
    WriteVerdict calls plain report taken := by
  refine .cut k e early exit ?_ told (fun quiet dataId => ?_) applied
  · rw [exit]
    exact exitCode_ne_zero e
  · have hplains : report.results = (List.replicate k []).map .ok ++ [.error e] := by
      rw [told, List.map_replicate]
    rw [Report.rows_cut hplains, List.map_replicate]
    rfl

/-- The first call ended the verb. -/
theorem Told.verdict {α : Type} {e : SecpError} {taken : List (List UInt8)} {calls : Nat}
    (h : Told plain (.error e : Except SecpError α) taken) (some_calls : 0 < calls) :
    WriteVerdict calls plain (.failed e) taken := by
  refine .stopped 0 some_calls rfl (List.nil_append _).symm ?_
  cases h with
  | failed => exact .inl rfl
  | unknown => exact .inr ⟨rfl, rfl⟩

/-- The polls went on from the first call. -/
theorem ToldAll.verdict {count : Nat} {rest : Report} {taken : List (List UInt8)}
    (h : ToldAll plain rest.results taken) (hv : Verdict count 1 rest) :
    WriteVerdict (max 1 count) plain (rest.after []) (plain :: taken) := by
  cases hv with
  | all plains total budget =>
      obtain ⟨hresults, rfl⟩ := ToldAll.all h
      have hcalls : max 1 count = plains.length + 1 := by omega
      rw [hcalls]
      refine .ended rfl ?_ (List.replicate_succ).symm (by omega)
      rw [Report.after, hresults, List.replicate_succ]
  | cut plains e early =>
      obtain ⟨hresults, htaken⟩ := ToldAll.cut h
      refine .stopped (plains.length + 1) (by omega) rfl ?_ ?_
      · rw [Report.after, hresults, List.replicate_succ, List.cons_append]
      · rcases htaken with rfl | ⟨he, rfl⟩
        · exact .inl (List.replicate_succ).symm
        · exact .inr ⟨he, (List.replicate_succ).symm⟩

/-- **A single write.** -/
theorem write_once_told (random : C → Option Rand × C) (hg : gcm.Correct)
    {w : ClientWorld (Channel C (Server H))} {keyId : UInt8}
    (hwhole : HeldWhole w.net.server.sod)
    (installed : w.net.server.sod.keys.getKey (keyidBase keyId) = some key)
    (hkeep : KeepsKey P dataId (keyidBase keyId) key) :
    wp (runSecureWrite gcm (link gcm P client random) P.deviceId dataId key keyId plain)
      (fun report w' => ∃ taken, Taken w.net.server w'.net.server taken ∧
        WriteVerdict 1 plain report taken) w := by
  have hnothing : ∀ e : SecpError, ∃ taken, Taken w.net.server w.net.server taken ∧
      WriteVerdict 1 plain (.failed e) taken :=
    fun e => ⟨[], taken_same _, .stopped 0 Nat.one_pos rfl (List.nil_append _).symm (.inl rfl)⟩
  unfold runSecureWrite secureWrite
  simp only [wp_bind, wp_ite, wp_pure]
  refine ⟨fun _ => hnothing _, fun _ => ⟨fun _ => hnothing _, fun hsize => ?_⟩⟩
  have some_data : 1 ≤ plain.length := by
    simp only [Bool.or_eq_true, beq_iff_eq, decide_eq_true_eq] at hsize
    omega
  refine wp_mono (writeFlow_told random hg hwhole installed hkeep some_data) ?_
  rintro res w' ⟨taken, htaken, htold, -⟩
  cases res with
  | error e => exact ⟨taken, htaken, htold.verdict Nat.one_pos⟩
  | ok nonce =>
      cases htold with
      | done => exact ⟨[plain], htaken, .ended rfl rfl rfl (by decide)⟩

/-- **The arming call of a cyclic write.** -/
theorem writeArmed_told (random : C → Option Rand × C) (hg : gcm.Correct)
    {w : ClientWorld (Channel C (Server H))} {keyId : UInt8}
    (hwhole : HeldWhole w.net.server.sod)
    (installed : w.net.server.sod.keys.getKey (keyidBase keyId) = some key)
    (hkeep : KeepsKey P dataId (keyidBase keyId) key) :
    wp (secureWriteArmed gcm (link gcm P client random) P.deviceId dataId key keyId plain)
      (fun res w' => ∃ taken, Taken w.net.server w'.net.server taken ∧ Told plain res taken ∧
        ∀ sess, res = .ok sess → sess.keyId = armKid keyId ∧ 1 ≤ plain.length ∧
          Held dataId key (keyidBase keyId) plain w'.net.server.sod) w := by
  have hbase : keyidBase (armKid keyId) = keyidBase keyId := keyidBase_armKid keyId
  have hnothing : ∀ e : SecpError, ∃ taken, Taken w.net.server w.net.server taken ∧
      Told plain (.error e : Except SecpError Session) taken ∧
      ∀ sess, (.error e : Except SecpError Session) = .ok sess → sess.keyId = armKid keyId ∧
        1 ≤ plain.length ∧ Held dataId key (keyidBase keyId) plain w.net.server.sod :=
    fun e => ⟨[], taken_same _, .failed e, fun sess hok => by cases hok⟩
  unfold secureWriteArmed
  simp only [wp_bind, wp_ite, wp_pure]
  refine ⟨fun _ => hnothing _, fun _ => ⟨fun _ => hnothing _, fun hsize => ?_⟩⟩
  have some_data : 1 ≤ plain.length := by
    simp only [Bool.or_eq_true, beq_iff_eq, decide_eq_true_eq] at hsize
    omega
  refine wp_mono (writeFlow_told random hg hwhole (hbase ▸ installed)
    (hbase ▸ hkeep) some_data) ?_
  rintro flow w' ⟨taken, htaken, htold, hheld⟩
  cases flow with
  | error e => exact ⟨taken, htaken, htold.error, fun sess hok => by cases hok⟩
  | ok nonce =>
      refine ⟨taken, htaken, htold.ok _, fun sess hok => ?_⟩
      cases hok
      exact ⟨rfl, some_data, hbase ▸ hheld nonce rfl⟩

/-- A poll that succeeds counts the session on. -/
theorem writeCall_counts {T : Transport (Channel C (Server H))} {device : UInt16}
    {sess sess' : Session} {w w' : ClientWorld (Channel C (Server H))} {shown : List UInt8}
    (h : writeCall gcm T device key plain sess w = ((.ok shown, sess'), w')) :
    sess.counter < keyUseLimit ∧ sess'.counter = sess.counter + 1 := by
  obtain ⟨r, hrun, hshown⟩ := writeCall_run h
  obtain ⟨log, -, hout⟩ := wp_run (pollWrite_outcome gcm T device key sess plain w) hrun
  cases r with
  | error e => cases hshown
  | ok tag =>
      dsimp only at hout
      cases hout with
      | acknowledged reached =>
          simp only [reachesSeal, Bool.and_eq_true, decide_eq_true_eq] at reached
          exact ⟨reached.2, rfl⟩

/-- **A cyclic write**, whatever COUNT is. -/
theorem write_poll_told (random : C → Option Rand × C) (hg : gcm.Correct)
    {w : ClientWorld (Channel C (Server H))} {keyId : UInt8} (count : UInt32)
    (hwhole : HeldWhole w.net.server.sod)
    (installed : w.net.server.sod.keys.getKey (keyidBase keyId) = some key)
    (hkeep : KeepsKey P dataId (keyidBase keyId) key) :
    ∃ report w', runSecureWritePoll gcm (link gcm P client random) P.deviceId dataId key keyId
        plain count w = (some report, w') ∧
      ∃ taken, Taken w.net.server w'.net.server taken ∧
        WriteVerdict (max 1 count.toNat) plain report taken := by
  have hcalls : 0 < max 1 count.toNat := by omega
  have hbase : keyidBase (armKid keyId) = keyidBase keyId := keyidBase_armKid keyId
  rcases harm : secureWriteArmed gcm (link gcm P client random) P.deviceId dataId key keyId plain w
    with ⟨res, w₁⟩
  obtain ⟨taken, htaken, htold, hnext⟩ :=
    wp_run (writeArmed_told random hg hwhole installed hkeep) harm
  unfold runSecureWritePoll
  rw [bind_run harm]
  cases res with
  | error e => exact ⟨_, w₁, rfl, taken, htaken, htold.verdict hcalls⟩
  | ok sess =>
      obtain ⟨hkid, some_data, hheld, idx, entry, hfound, hfull⟩ := hnext sess rfl
      obtain ⟨idx', entry', hsynced, hzero⟩ := armed_write_synced hwhole harm
      obtain ⟨rfl, rfl⟩ : idx = idx' ∧ entry = entry' := by
        have hsame := Option.some.inj (hfound.symm.trans hsynced.found)
        exact ⟨congrArg Prod.fst hsame, congrArg Prod.snd hsame⟩
      have hsession : keyidBase sess.keyId = keyidBase keyId := by rw [hkid, hbase]
      -- the polls
      obtain ⟨rest, w', hrun, hpolled, hverdict⟩ :=
        pollLoop_run (fun _ _ _ _ _ hcall => writeCall_counts hcall) count loopFuel 2 sess
          (by rw [hzero]; decide) (by rw [hzero]; decide) (by rw [hzero]; rfl) w₁
      obtain ⟨more, hmore, htoldall⟩ := polled_told hg hsynced (hsession ▸ hheld)
        (hsession ▸ hkeep) some_data hfull hpolled
      rw [hzero] at hverdict
      refine ⟨rest.after [], w', ?_, taken ++ more, htaken.trans hmore, ?_⟩
      · show (pollLoop _ count loopFuel 2 sess >>= fun rest => pure (rest.map (Report.after [])))
          w₁ = _
        rw [bind_run hrun]
        rfl
      · cases htold with
        | done => exact htoldall.verdict hverdict

end SofaVerbs
