import Sofa.Verbs
import Sofa.Lockstep

/-! # What a read verb shows, and what the device gave

    The same for reads.  What the operator is shown are the values that the device sealed during
    the verb, one for each call that is OK, in their order and unchanged; and the device sealed at
    most one more, for the call that failed.  Every value is one that `read_before` supplied.

    * `readFlow_shown`, `pollRead_shown`: the two kinds of calls;
    * **`read_verbs_shown`**: a single read and a cyclic one, against any server. -/

namespace SofaVerbs

open ByteBlock SofaConfig SofaAead SofaOd SofaMoves SofaServer SofaReads SofaWrites SofaWriteFrames
  SofaExec SofaClient SofaClientMoves SofaClientNonce SofaChannel SofaHonest SofaDevice
  SofaLockstep StateWp

variable {H C : Type} {gcm : Gcm} {P : Ports H} {client : UInt16} {random : C → Option Rand × C}
  {idx : Fin sodMaxEntries} {entry : SodEntry} {dataId : UInt32} {key : Key} {kid : UInt8}

/-! ## One call of the device -/

/-- The values that one dispatch sealed. -/
def sealedValues (log : List Event) : List (List UInt8) :=
  ((sealings log).filter (·.out.isSome)).map (·.plain)

theorem sealedValues_quiet {log : List Event} (h : Quiet log) : sealedValues log = [] := by
  rw [sealedValues, sealings_quiet h]
  rfl

theorem sealedValues_passive {pre post : List Event} (h : Passive pre) :
    sealedValues (pre ++ post) = sealedValues post := by
  rw [sealedValues, sealings_passive h, sealedValues]

/-- A value that was sealed came from the application, in the same dispatch. -/
theorem sealed_supplied {req : List UInt8} {arrival : UInt16} {s s' : Sod} {log : List Event}
    {r : SodResult} (h : Move gcm P client req arrival s idx entry log r s') :
    ∀ value ∈ sealedValues log, Event.readBefore entry.dataId abortNone value ∈ log := by
  have hnone : sealedValues log = [] →
      ∀ value ∈ sealedValues log, Event.readBefore entry.dataId abortNone value ∈ log := by
    intro hnil value hmem
    rw [hnil] at hmem
    cases hmem
  cases h with
  | refused quiet => exact hnone (sealedValues_quiet quiet)
  | readArmFailed checked => exact hnone (by rw [sealedValues_passive checked.passive]; rfl)
  | @readArmed pre key plain cipher sr tag now checked =>
      intro value hmem
      rw [sealedValues_passive checked.passive] at hmem
      have hvalue : value = plain := List.mem_singleton.mp hmem
      rw [hvalue]
      exact List.mem_append_left _ checked.source
  | fetchDropped => exact hnone rfl
  | fetchedOnce => exact hnone rfl
  | fetchedCyclic => exact hnone rfl
  | readLapsed => exact hnone rfl
  | readPollFailed checked passive => exact hnone (by rw [sealedValues_passive passive]; rfl)
  | @readPolled l now now' key plain cipher tag checked passive clock gate source =>
      intro value hmem
      rw [sealedValues_passive passive] at hmem
      have hvalue : value = plain := List.mem_singleton.mp hmem
      rw [hvalue]
      exact List.mem_append_left _ source
  | writeArmed wo len idle kid binding passive passive' =>
      refine hnone (sealedValues_quiet ?_)
      simp only [quiet_append, quiet_cons, quiet_nil, passive.quiet, passive'.quiet, EventQuiet,
        EventPassive, and_self]
  | pass2Dropped wo inUse len idle notPoll passive => exact hnone (sealedValues_quiet passive.quiet)
  | pass2Forged => exact hnone rfl
  | pass2Refused => exact hnone rfl
  | pass2Once => exact hnone rfl
  | pass2Cyclic => exact hnone rfl
  | writeLapsed => exact hnone rfl
  | writePollForged => exact hnone rfl
  | writePollRefused => exact hnone rfl
  | writePolled => exact hnone rfl

/-- A fetch seals nothing. -/
theorem fetch_sealed {arrival : UInt16} {s s' : Sod} {log : List Event} {r : SodResult}
    (h : Move gcm P client [] arrival s idx entry log r s') : sealedValues log = [] := by
  cases h with
  | refused quiet => exact sealedValues_quiet quiet
  | readArmFailed checked => exact absurd checked.len (by decide)
  | readArmed checked => exact absurd checked.len (by decide)
  | fetchDropped => rfl
  | fetchedOnce => rfl
  | fetchedCyclic => rfl
  | readLapsed => rfl
  | readPollFailed checked passive =>
      rw [sealedValues_passive passive]
      rfl
  | readPolled checked => exact absurd checked.len (by decide)
  | writeArmed wo len idle kid binding passive passive' =>
      refine sealedValues_quiet ?_
      simp only [quiet_append, quiet_cons, quiet_nil, passive.quiet, passive'.quiet, EventQuiet,
        EventPassive, and_self]
  | pass2Dropped wo inUse len idle notPoll passive => exact sealedValues_quiet passive.quiet
  | pass2Forged => rfl
  | pass2Refused => rfl
  | pass2Once => rfl
  | pass2Cyclic => rfl
  | writeLapsed => rfl
  | writePollForged => rfl
  | writePollRefused => rfl
  | writePolled => rfl

/-- **A read challenge** seals one value at most, and when it is acknowledged the slot holds the
    response with that value. -/
theorem challenge_sealed {req : List UInt8} {arrival : UInt16} {s s' : Sod} {log : List Event}
    {r : SodResult} (hlen : req.length = readChallengeLen)
    (h : Move gcm P client req arrival s idx entry log r s') :
    (sealedValues log).length ≤ 1 ∧ ∀ reply, answer r = .ok reply →
      ∃ key sr plain cipher tag now, s.keys.getKey (keyidBase (reqHead req)) = some key ∧
        sealedValues log = [plain] ∧
        aeadSeal gcm (readArmCall P client entry req key sr) plain = some (cipher, tag) ∧
        s' = s.setRead idx (armedReadSlot client req sr cipher tag now) := by
  have hthirteen : req.length = 13 := hlen
  have hshort : ¬ readChallengeLen < req.length := by omega
  have hnone : sealedValues log = [] → (sealedValues log).length ≤ 1 := by
    intro hnil
    rw [hnil]
    exact Nat.zero_le 1
  cases h with
  | refused quiet => exact ⟨hnone (sealedValues_quiet quiet), fun _ hok => by cases hok⟩
  | readArmFailed checked =>
      refine ⟨hnone ?_, fun _ hok => by cases hok⟩
      rw [sealedValues_passive checked.passive]
      rfl
  | @readArmed pre key plain cipher sr tag now checked sealed =>
      have hone : sealedValues (pre ++ [.random (some sr),
          .aeadSeal (readArmCall P client entry req key sr) plain (some (cipher, tag)),
          .time now]) = [plain] := sealedValues_passive checked.passive
      refine ⟨(congrArg List.length hone).le, fun reply _ => ?_⟩
      exact ⟨key, sr, plain, cipher, tag, now, checked.installed, hone, sealed, rfl⟩
  | fetchDropped => exact ⟨hnone rfl, fun _ hok => by cases hok⟩
  | fetchedOnce ro empty => simp [empty] at hthirteen
  | fetchedCyclic ro empty => simp [empty] at hthirteen
  | readLapsed => exact ⟨hnone rfl, fun _ hok => by cases hok⟩
  | readPollFailed checked => exact absurd (hthirteen.symm.trans checked.len) (by decide)
  | readPolled checked => exact absurd (hthirteen.symm.trans checked.len) (by decide)
  | writeArmed wo len => omega
  | pass2Dropped wo inUse len idle notPoll passive =>
      exact ⟨hnone (sealedValues_quiet passive.quiet), fun _ hok => by cases hok⟩
  | pass2Forged => exact ⟨hnone rfl, fun _ hok => by cases hok⟩
  | pass2Refused => exact ⟨hnone rfl, fun _ hok => by cases hok⟩
  | pass2Once checked => exact absurd (pass2Len_long checked.len) hshort
  | pass2Cyclic checked => exact absurd (pass2Len_long checked.len) hshort
  | writeLapsed => exact ⟨hnone rfl, fun _ hok => by cases hok⟩
  | writePollForged => exact ⟨hnone rfl, fun _ hok => by cases hok⟩
  | writePollRefused => exact ⟨hnone rfl, fun _ hok => by cases hok⟩
  | writePolled checked => exact absurd (pollLen_long checked.len) hshort

/-- A fetch that is answered with a response has delivered what the slot held. -/
theorem fetch_prepared {reply : List UInt8} {arrival : UInt16} {s s' : Sod} {log : List Event}
    {r : SodResult} (hlong : 28 ≤ reply.length) (hok : answer r = .ok reply)
    (h : Move gcm P client [] arrival s idx entry log r s') :
    reply = (s.readSlot idx).prepared := by
  cases h with
  | refused => cases hok
  | readArmFailed => cases hok
  | readArmed checked => exact absurd checked.len (by decide)
  | fetchDropped => cases hok
  | fetchedOnce =>
      cases hok
      rfl
  | fetchedCyclic =>
      cases hok
      rfl
  | readLapsed => cases hok
  | readPollFailed => cases hok
  | readPolled checked => exact absurd checked.len (by decide)
  | writeArmed =>
      cases hok
      simp at hlong
  | pass2Dropped => cases hok
  | pass2Forged => cases hok
  | pass2Refused => cases hok
  | pass2Once checked => exact absurd (pass2Len_long checked.len) (by decide)
  | pass2Cyclic checked => exact absurd (pass2Len_long checked.len) (by decide)
  | writeLapsed => cases hok
  | writePollForged => cases hok
  | writePollRefused => cases hok
  | writePolled checked => exact absurd (pollLen_long checked.len) (by decide)

/-! ## One call of the client -/

/-- The device sealed `values` between two states, all of them supplied by the application. -/
def Gave (dataId : UInt32) (s s' : Server H) (values : List (List UInt8)) : Prop :=
  ∃ served, s'.history = s.history ++ served ∧
    (served.flatMap fun x => sealedValues x.calls) = values ∧
    ∀ x ∈ served, ∀ value ∈ sealedValues x.calls,
      Event.readBefore dataId abortNone value ∈ x.calls

theorem gave_same (dataId : UInt32) (s : Server H) : Gave dataId s s [] :=
  ⟨[], (List.append_nil _).symm, rfl, fun x hx => by cases hx⟩

theorem Gave.trans {s₁ s₂ s₃ : Server H} {values more : List (List UInt8)}
    (h : Gave dataId s₁ s₂ values) (h' : Gave dataId s₂ s₃ more) :
    Gave dataId s₁ s₃ (values ++ more) := by
  obtain ⟨served, hhistory, rfl, hsource⟩ := h
  obtain ⟨served', hhistory', rfl, hsource'⟩ := h'
  refine ⟨served ++ served', ?_, ?_, ?_⟩
  · rw [hhistory', hhistory, List.append_assoc]
  · rw [List.flatMap_append]
  · intro x hx
    rcases List.mem_append.mp hx with hold | hnew
    · exact hsource x hold
    · exact hsource' x hnew

/-- One request on a registered data id. -/
theorem gave_exchange {srv s' : Server H} {body : List UInt8} {arrival : UInt16} {sod : Sod}
    {log : List Event} {r : SodResult}
    (hfound : srv.sod.registry.find dataId = some (idx, entry))
    (hmove : Move gcm P client body arrival srv.sod idx entry log r sod)
    (h : s'.history = srv.history ++ [⟨client, dataId, body, r, log⟩]) :
    Gave dataId srv s' (sealedValues log) := by
  refine ⟨[⟨client, dataId, body, r, log⟩], h, List.flatMap_singleton _ _, ?_⟩
  intro x hx
  rw [List.mem_singleton.mp hx, ← find_dataId hfound]
  exact sealed_supplied hmove

/-- One request, whatever it is for: the values that it sealed. -/
theorem gave_request (gcm : Gcm) (P : Ports H) (client : UInt16) (dataId : UInt32)
    (body : List UInt8) (srv : Server H) (Q : List (List UInt8) → Prop) (hempty : Q [])
    (hmove : ∀ idx entry log r s', Move gcm P client body (P.timeMs srv.host).1 srv.sod idx entry
      log r s' → Q (sealedValues log)) :
    ∃ values, Gave dataId srv (servedBy gcm P client dataId body srv) values ∧ Q values := by
  rcases request_cases gcm P srv client dataId body dispatchReplyMax with
    ⟨-, -, hstep⟩ | ⟨idx, entry, log, r, s', host, hfound, hm, -, hstep⟩
  · refine ⟨[], ⟨[_], by rw [servedBy, hstep], rfl, ?_⟩, hempty⟩
    intro x hx value hvalue
    rw [List.mem_singleton.mp hx] at hvalue
    cases hvalue
  · refine ⟨_, gave_exchange hfound hm (by rw [servedBy, hstep]), hmove idx entry log r s' hm⟩

/-- A fetch gives no new value. -/
theorem gave_fetch (gcm : Gcm) (P : Ports H) (client : UInt16) (dataId : UInt32) (srv : Server H) :
    Gave dataId srv (servedBy gcm P client dataId [] srv) [] := by
  obtain ⟨values, hgave, rfl⟩ := gave_request gcm P client dataId [] srv (· = []) rfl
    fun _ _ _ _ _ hm => fetch_sealed hm
  exact hgave

/-- **Challenge and fetch**, over a channel that loses what it likes: the device seals one value at
    most. -/
theorem readFlow_gave (random : C → Option Rand × C) (bufSize : Nat)
    (w : ClientWorld (Channel C (Server H))) :
    wp (readFlow gcm (link gcm P client random) P.deviceId dataId key kid bufSize)
      (fun _ w' => ∃ values, Gave dataId w.net.server w'.net.server values ∧
        values.length ≤ 1) w := by
  have hnothing : ∀ ch : Channel C (Server H), ch.server = w.net.server →
      ∃ values, Gave dataId w.net.server ch.server values ∧ values.length ≤ 1 := by
    intro ch hsame
    rw [hsame]
    exact ⟨[], gave_same dataId _, Nat.zero_le 1⟩
  unfold readFlow
  simp only [wp_bind, wp_drawRandom]
  intro cr ch₁ hdraw
  have hsame : ch₁.server = w.net.server := (congrArg (fun r => r.2.server) hdraw).symm
  cases cr with
  | none => exact hnothing ch₁ hsame
  | some cr =>
      simp only [wp_bind, wp_transportWrite]
      intro sent ch₂ hsent
      have hchallenge : ∃ values, Gave dataId w.net.server ch₂.server values ∧
          values.length ≤ 1 := by
        rcases write_cases hsent with ⟨hlost, -⟩ | ⟨hserved, -⟩
        · exact hnothing ch₂ (hlost.trans hsame)
        · rw [hserved, hsame]
          exact gave_request gcm P client dataId _ w.net.server (fun values => values.length ≤ 1)
            (Nat.zero_le 1) fun _ _ _ _ _ hm => (challenge_sealed length_challenge hm).1
      cases sent with
      | error e => exact hchallenge
      | ok u =>
          simp only [wp_bind, wp_transportRead]
          intro got ch₃ hgot
          have hfetched : ∃ values, Gave dataId w.net.server ch₃.server values ∧
              values.length ≤ 1 := by
            obtain ⟨values, hgave, hone⟩ := hchallenge
            rcases read_cases hgot with ⟨hlost, -⟩ | ⟨hserved, -⟩
            · rw [hlost]
              exact ⟨values, hgave, hone⟩
            · rw [hserved]
              have hmore := hgave.trans (gave_fetch gcm P client dataId ch₂.server)
              rw [List.append_nil] at hmore
              exact ⟨values, hmore, hone⟩
          cases got with
          | error e => exact hfetched
          | ok response =>
              simp only [wp_ite, wp_pure, wp_bind, wp_clientOpen]
              refine ⟨fun _ => hfetched, fun _ => ⟨fun _ => hfetched, fun _ =>
                ⟨fun _ => hfetched, fun _ => ?_⟩⟩⟩
              intro out hopen
              cases out with
              | none => exact hfetched
              | some plain => exact hfetched

/-- **A read that succeeds** shows the value that the device sealed for it. -/
theorem readFlow_shown (random : C → Option Rand × C) (hg : gcm.Correct) {bufSize : Nat}
    {w w' : ClientWorld (Channel C (Server H))} {plain : List UInt8} {nonce : Nonce}
    (installed : w.net.server.sod.keys.getKey (keyidBase kid) = some key)
    (h : readFlow gcm (link gcm P client random) P.deviceId dataId key kid bufSize w =
      (.ok (plain, nonce), w')) :
    Gave dataId w.net.server w'.net.server [plain] := by
  obtain ⟨calls, -, hout⟩ := wp_run (readFlow_outcome w) h
  cases hout with
  | @verified cr ch₁ ch₂ ch' response plain draw sent got long opened =>
      have hsame : ch₁.server = w.net.server := (congrArg (fun r => r.2.server) draw).symm
      -- the challenge was taken: the slot holds the response with the value
      rcases write_cases sent with ⟨-, e, he⟩ | ⟨hserver₂, hreply⟩
      · cases he
      obtain ⟨reply, hreply⟩ := hreply rfl
      rw [hsame] at hserver₂ hreply
      obtain ⟨idx, entry, log₁, r₁, s₁, host₁, hf, hmove₁, hok₁, hstep₁⟩ := served_ok hreply
      obtain ⟨key', sr, value, cipher, tag, now, hkey, hvalue, sealed, hs₁⟩ :=
        (challenge_sealed length_challenge hmove₁).2 reply hok₁
      have hsod₂ : ch₂.server.sod = w.net.server.sod.setRead idx
          (armedReadSlot client (kid :: toList cr) sr cipher tag now) := by
        rw [hserver₂]
        exact (congrArg Server.sod hstep₁).trans hs₁
      -- the fetch delivered it
      rcases read_cases got with ⟨-, e, he⟩ | ⟨hserver₃, hanswer⟩
      · cases he
      obtain ⟨idx', entry', log₂, r₂, s₂, host₂, hf', hmove₂, hok₂, hstep₂⟩ :=
        served_ok (hanswer response rfl)
      have hsame_entry : (idx, entry) = (idx', entry') := by
        rw [hsod₂] at hf'
        exact Option.some.inj (hf.symm.trans hf')
      cases hsame_entry
      have hresponse : response = responseFrame sr cipher tag := by
        rw [fetch_prepared long hok₂ hmove₂, hsod₂, Sod.readSlot_setRead]
        rfl
      subst hresponse
      have hrandom : responseRandom (responseFrame sr cipher tag) = sr := slice_responseFrame
      have hsize : (responseFrame sr cipher tag).length - aeadRandSize - aeadTagSize
          = cipher.length := by
        show (responseFrame sr cipher tag).length - 12 - 16 = cipher.length
        rw [length_responseFrame]
        omega
      have hkeys : key' = key := Option.some.inj (hkey.symm.trans installed)
      have hcall : responseCall (link gcm P client random) P.deviceId dataId key kid cr sr
          = readArmCall P client entry (kid :: toList cr) key sr := by
        rw [responseCall, readArmCall, random_challenge, find_dataId hf]
        rfl
      rw [hkeys] at sealed
      rw [hrandom, hcall, responseCipher, responseTag, hsize, cipher_responseFrame,
        tag_responseFrame, aeadOpen_aeadSeal hg sealed] at opened
      rw [← Option.some.inj opened]
      have hgave : Gave dataId w.net.server ch₂.server [value] := by
        rw [← hvalue, hserver₂]
        exact gave_exchange hf hmove₁ (congrArg Server.history hstep₁)
      have hmore := hgave.trans (gave_fetch gcm P client dataId ch₂.server)
      rw [hserver₃]
      exact hmore

/-- **A poll of a session that both ends hold**, over a channel that loses what it likes. -/
theorem pollRead_shown (random : C → Option Rand × C) (hg : gcm.Correct) {plainMax : Nat}
    {w : ClientWorld (Channel C (Server H))} {sess : Session}
    (synced : ReadSynced client dataId idx entry key sess w.net.server.sod) :
    wp (securePollRead gcm (link gcm P client random) P.deviceId key sess plainMax)
      (fun r w' => ∃ values, Gave dataId w.net.server w'.net.server values ∧ values.length ≤ 1 ∧
        ∀ plain tag, r.1 = .ok (plain, tag) → values = [plain] ∧ sess.counter < keyUseLimit ∧
          r.2 = { sess with counter := sess.counter + 1 } ∧
          ReadSynced client dataId idx entry key r.2 w'.net.server.sod) w := by
  refine wp_mono (pollRead_outcome w) ?_
  rintro ⟨res, sess'⟩ ⟨ch', log'⟩ ⟨log, -, hout⟩
  dsimp only at hout ⊢
  -- the request at the server: no seal, or the next reply and the session counted on
  have hrequest : ∃ calls r s' host,
      Move gcm P client [UInt8.ofNat (sess.counter + 1)] (P.timeMs w.net.server.host).1
        w.net.server.sod idx entry calls r s' ∧
      (sodService gcm P client dataId [UInt8.ofNat (sess.counter + 1)] w.net.server).1
        = answer r ∧
      servedBy gcm P client dataId [UInt8.ofNat (sess.counter + 1)] w.net.server
        = ⟨s', host, w.net.server.history ++
            [⟨client, dataId, [UInt8.ofNat (sess.counter + 1)], r, calls⟩]⟩ :=
    served_move _ synced.found
  obtain ⟨calls, r, s', host, hmove, hservice, hstep⟩ := hrequest
  obtain ⟨hserved, hkeys⟩ := readPoll_served (by rfl) hmove
  have hgave : Gave dataId w.net.server (servedBy gcm P client dataId
      [UInt8.ofNat (sess.counter + 1)] w.net.server) (sealedValues calls) := by
    rw [hstep]
    exact gave_exchange synced.found hmove rfl
  have hone : (sealedValues calls).length ≤ 1 := by
    generalize s'.readSlot idx = slot' at hserved
    cases hserved with
    | idle seals =>
        rw [sealedValues, seals]
        exact Nat.zero_le 1
    | answered checked sealed seals =>
        rw [sealedValues, seals]
        exact Nat.le_refl 1
  cases hout with
  | refused =>
      exact ⟨[], gave_same dataId _, Nat.zero_le 1, fun plain tag hok => by cases hok⟩
  | failed inUse budget got idle =>
      rw [synced.target] at got
      rcases read_cases got with ⟨hsame, -⟩ | ⟨hserver, -⟩
      · rw [hsame]
        exact ⟨[], gave_same dataId _, Nat.zero_le 1, fun plain tag hok => by cases hok⟩
      · rw [hserver]
        exact ⟨_, hgave, hone, fun plain tag hok => by cases hok⟩
  | @verified net' reply plain inUse budget got long head opened =>
      rw [synced.target] at got
      rcases read_cases got with ⟨-, e, he⟩ | ⟨hserver, hanswer⟩
      · cases he
      rw [hserver]
      refine ⟨_, hgave, hone, fun shown tag hok => ?_⟩
      cases hok
      have hreply : answer r = .ok reply := hservice.symm.trans (hanswer reply rfl)
      have hregistry : s'.registry = w.net.server.sod.registry := Move.registry hmove
      have hsod : (sodService gcm P client dataId [UInt8.ofNat (sess.counter + 1)]
          w.net.server).2.sod = s' := congrArg Server.sod hstep
      rw [hsod]
      generalize hslot : s'.readSlot idx = slot' at hserved
      cases hserved with
      | idle seals short kept =>
          have hlong : 17 ≤ reply.length := long
          have htoo := short reply hreply
          omega
      | @answered key' value cipher tag' now now' checked sealed seals =>
          have hinstalled := checked.installed
          rw [synced.keyId] at hinstalled
          have hkey : key' = key := Option.some.inj (hinstalled.symm.trans synced.installed)
          subst hkey
          have hlock := synced.lockstep (Nat.le_of_lt budget)
          cases hreply
          rw [replyCipher_pollFrame, replyTag_pollFrame,
            nextReadCall_eq synced.toReadSide hlock synced.counter,
            aeadOpen_aeadSeal hg sealed] at opened
          refine ⟨?_, budget, rfl, ?_⟩
          · rw [sealedValues, seals, ← Option.some.inj opened]
            rfl
          · exact
              { inUse := synced.inUse
                target := synced.target
                found := by rw [hregistry]; exact synced.found
                installed := by rw [hkeys]; exact synced.installed
                owner := by rw [hslot]; exact synced.owner
                keyId := by rw [hslot]; exact synced.keyId
                ro := synced.ro
                live := by rw [hslot]; exact synced.live
                cyclic := by rw [hslot]; exact synced.cyclic
                base := by rw [hslot]; exact synced.base
                counter := by rw [hslot]; exact congrArg (· + 1) synced.counter }

/-! ## The verbs -/

/-- What a run of polls shows, and what the device gave during it. -/
inductive ShownAll : List (Except SecpError (List UInt8)) → List (List UInt8) → Prop
  | done : ShownAll [] []
  | ok {plain : List UInt8} {results : List (Except SecpError (List UInt8))}
      {values : List (List UInt8)} (rest : ShownAll results values) :
      ShownAll (.ok plain :: results) (plain :: values)
  | stopped (e : SecpError) (values : List (List UInt8)) (last : values.length ≤ 1) :
      ShownAll [.error e] values

/-- **The polls of a cyclic read.** -/
theorem polled_shown (hg : gcm.Correct) {sess : Session}
    {w w' : ClientWorld (Channel C (Server H))} {results : List (Except SecpError (List UInt8))}
    (synced : ReadSynced client dataId idx entry key sess w.net.server.sod)
    (h : Polled (readCall gcm (link gcm P client random) P.deviceId key) sess w results w') :
    ∃ values, Gave dataId w.net.server w'.net.server values ∧ ShownAll results values := by
  induction h with
  | done => exact ⟨[], gave_same dataId _, .done⟩
  | @ok sess sess' w w₁ w' shown results call rest ih =>
      obtain ⟨r, hrun, hshown⟩ := readCall_run call
      obtain ⟨values, hgave, -, hnext⟩ := wp_run (pollRead_shown random hg synced) hrun
      cases r with
      | error e => cases hshown
      | ok out =>
          cases hshown
          obtain ⟨rfl, -, rfl, hsynced⟩ := hnext out.1 out.2 rfl
          obtain ⟨more, hmore, hrest⟩ := ih hsynced
          exact ⟨_, hgave.trans hmore, .ok hrest⟩
  | @stopped sess sess' w w' e call =>
      obtain ⟨r, hrun, hshown⟩ := readCall_run call
      obtain ⟨values, hgave, hone, -⟩ := wp_run (pollRead_shown random hg synced) hrun
      cases r with
      | ok out => cases hshown
      | error e =>
          cases hshown
          exact ⟨values, hgave, .stopped e values hone⟩

/-- How a read verb ends that was to make `calls` calls, the rows it told, and what the device
    gave: it showed all of it; or a call failed, and it showed all of it but for one value at
    most. -/
inductive ReadVerdict (calls : Nat) (report : Report) (values : List (List UInt8)) : Prop
  | all (exit : report.exit = 0) (shown : report.results = values.map .ok)
      (rows : ∀ quiet dataId, report.rows quiet dataId =
        if quiet then [] else values.map (okRow dataId))
      (count : values.length = calls) (budget : calls ≤ keyUseLimit + 1)
  | cut (seen extra : List (List UInt8)) (e : SecpError) (early : seen.length < calls)
      (exit : report.exit = exitCode e) (nonzero : report.exit ≠ 0)
      (shown : report.results = seen.map .ok ++ [.error e])
      (rows : ∀ quiet dataId, report.rows quiet dataId =
        if quiet then [] else seen.map (okRow dataId) ++ [.closed, failRow e])
      (given : values = seen ++ extra) (one : extra.length ≤ 1)

/-- The rows follow from the results. -/
theorem ReadVerdict.ended {calls : Nat} {report : Report} {values : List (List UInt8)}
    (exit : report.exit = 0) (shown : report.results = values.map .ok)
    (count : values.length = calls) (budget : calls ≤ keyUseLimit + 1) :
    ReadVerdict calls report values :=
  .all exit shown (Report.rows_all shown) count budget

theorem ReadVerdict.stopped {calls : Nat} {report : Report} {values extra : List (List UInt8)}
    {e : SecpError} (seen : List (List UInt8)) (early : seen.length < calls)
    (exit : report.exit = exitCode e)
    (shown : report.results = seen.map .ok ++ [.error e]) (given : values = seen ++ extra)
    (one : extra.length ≤ 1) : ReadVerdict calls report values := by
  refine .cut seen extra e early exit ?_ shown (Report.rows_cut shown) given one
  rw [exit]
  exact exitCode_ne_zero e

/-- The first call ended the verb. -/
theorem ReadVerdict.first {calls : Nat} {values : List (List UInt8)} (e : SecpError)
    (hone : values.length ≤ 1) (some_calls : 0 < calls) :
    ReadVerdict calls (.failed e) values :=
  .stopped [] some_calls rfl (List.nil_append _).symm (List.nil_append _).symm hone

theorem ShownAll.all {plains values : List (List UInt8)} (h : ShownAll (plains.map .ok) values) :
    values = plains := by
  induction plains generalizing values with
  | nil =>
      cases h with
      | done => rfl
  | cons shown plains ih =>
      rw [List.map_cons] at h
      cases h with
      | ok rest => rw [ih rest]

theorem ShownAll.cut {plains values : List (List UInt8)} {e : SecpError}
    (h : ShownAll (plains.map .ok ++ [.error e]) values) :
    ∃ extra, values = plains ++ extra ∧ extra.length ≤ 1 := by
  induction plains generalizing values with
  | nil =>
      cases h with
      | stopped e values last => exact ⟨values, rfl, last⟩
  | cons shown plains ih =>
      rw [List.map_cons, List.cons_append] at h
      cases h with
      | ok rest =>
          obtain ⟨extra, rfl, hone⟩ := ih rest
          exact ⟨extra, rfl, hone⟩

/-- The polls went on from the first call. -/
theorem ShownAll.verdict {count : Nat} {rest : Report} {values : List (List UInt8)}
    (h : ShownAll rest.results values) (hv : Verdict count 1 rest) (plain : List UInt8) :
    ReadVerdict (max 1 count) (rest.after plain) (plain :: values) := by
  cases hv with
  | all plains total budget =>
      obtain rfl := ShownAll.all h
      refine .ended rfl rfl ?_ (by omega)
      rw [List.length_cons]
      omega
  | cut plains e early =>
      obtain ⟨extra, rfl, hone⟩ := ShownAll.cut h
      refine .stopped (plain :: plains) ?_ rfl rfl rfl hone
      rw [List.length_cons]
      omega

/-- A poll that succeeds counts the session on. -/
theorem readCall_counts {T : Transport (Channel C (Server H))} {device : UInt16}
    {sess sess' : Session} {w w' : ClientWorld (Channel C (Server H))} {shown : List UInt8}
    (h : readCall gcm T device key sess w = ((.ok shown, sess'), w')) :
    sess.counter < keyUseLimit ∧ sess'.counter = sess.counter + 1 := by
  obtain ⟨r, hrun, hshown⟩ := readCall_run h
  obtain ⟨log, -, hout⟩ := wp_run (pollRead_outcome w) hrun
  cases r with
  | error e => cases hshown
  | ok out =>
      dsimp only at hout
      cases hout with
      | verified inUse budget => exact ⟨budget, rfl⟩

/-- **A single read.** -/
theorem read_once_shown (random : C → Option Rand × C) (hg : gcm.Correct)
    {w : ClientWorld (Channel C (Server H))} {keyId : UInt8} (bufSize : Nat)
    (installed : w.net.server.sod.keys.getKey (keyidBase keyId) = some key) :
    wp (runSecureRead gcm (link gcm P client random) P.deviceId dataId key keyId bufSize)
      (fun report w' => ∃ values, Gave dataId w.net.server w'.net.server values ∧
        ReadVerdict 1 report values) w := by
  unfold runSecureRead secureRead
  simp only [wp_bind, wp_ite, wp_pure]
  refine ⟨fun _ => ⟨[], gave_same dataId _, .first _ (Nat.zero_le 1) Nat.one_pos⟩, fun _ => ?_⟩
  rcases hrun : readFlow gcm (link gcm P client random) P.deviceId dataId key keyId bufSize w
    with ⟨res, w'⟩
  obtain ⟨values, hgave, hone⟩ := wp_run (readFlow_gave random bufSize w) hrun
  unfold wp
  rw [hrun]
  cases res with
  | error e => exact ⟨values, hgave, .first e hone Nat.one_pos⟩
  | ok out =>
      exact ⟨[out.1], readFlow_shown random hg installed hrun, .ended rfl rfl rfl (by decide)⟩

/-- **A cyclic read**, whatever COUNT is. -/
theorem read_poll_shown (random : C → Option Rand × C) (hg : gcm.Correct)
    {w : ClientWorld (Channel C (Server H))} {keyId : UInt8} (count : UInt32)
    (installed : w.net.server.sod.keys.getKey (keyidBase keyId) = some key) :
    ∃ report w', runSecureReadPoll gcm (link gcm P client random) P.deviceId dataId key keyId
        count w = (some report, w') ∧
      ∃ values, Gave dataId w.net.server w'.net.server values ∧
        ReadVerdict (max 1 count.toNat) report values := by
  have hcalls : 0 < max 1 count.toNat := by omega
  rcases harm : secureReadArmed gcm (link gcm P client random) P.deviceId dataId key keyId
    aeadMaxProtected w with ⟨res, w₁⟩
  -- the arming call
  have harmed : wp (secureReadArmed gcm (link gcm P client random) P.deviceId dataId key keyId
      aeadMaxProtected) (fun res w' => ∃ values, Gave dataId w.net.server w'.net.server values ∧
        values.length ≤ 1 ∧ ∀ plain sess, res = .ok (plain, sess) → values = [plain]) w := by
    unfold secureReadArmed
    simp only [wp_bind, wp_ite, wp_pure]
    refine ⟨fun _ => ⟨[], gave_same dataId _, Nat.zero_le 1, fun _ _ hok => by cases hok⟩,
      fun _ => ?_⟩
    rcases hrun : readFlow gcm (link gcm P client random) P.deviceId dataId key (armKid keyId)
      aeadMaxProtected w with ⟨flow, w'⟩
    obtain ⟨values, hgave, hone⟩ := wp_run (readFlow_gave random aeadMaxProtected w) hrun
    unfold wp
    rw [hrun]
    cases flow with
    | error e => exact ⟨values, hgave, hone, fun _ _ hok => by cases hok⟩
    | ok out =>
        have hheld : w.net.server.sod.keys.getKey (keyidBase (armKid keyId)) = some key := by
          rw [keyidBase_armKid]
          exact installed
        refine ⟨[out.1], readFlow_shown random hg hheld hrun, Nat.le_refl 1, fun _ _ hok => ?_⟩
        cases hok
        rfl
  obtain ⟨values, hgave, hone, hshown⟩ := wp_run harmed harm
  unfold runSecureReadPoll
  rw [bind_run harm]
  cases res with
  | error e => exact ⟨_, w₁, rfl, values, hgave, .first e hone hcalls⟩
  | ok out =>
      obtain ⟨plain, sess⟩ := out
      obtain rfl := hshown plain sess rfl
      obtain ⟨idx, entry, hsynced, hzero⟩ := armed_read_synced installed harm
      -- the polls
      obtain ⟨rest, w', hrun, hpolled, hverdict⟩ :=
        pollLoop_run (fun _ _ _ _ _ hcall => readCall_counts hcall) count loopFuel 2 sess
          (by rw [hzero]; decide) (by rw [hzero]; decide) (by rw [hzero]; rfl) w₁
      obtain ⟨more, hmore, hall⟩ := polled_shown hg hsynced hpolled
      rw [hzero] at hverdict
      refine ⟨rest.after plain, w', ?_, [plain] ++ more, hgave.trans hmore,
        hall.verdict hverdict plain⟩
      show (pollLoop _ count loopFuel 2 sess >>= fun rest => pure (rest.map (Report.after plain)))
        w₁ = _
      rw [bind_run hrun]
      rfl

end SofaVerbs
