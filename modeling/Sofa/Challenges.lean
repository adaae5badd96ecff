import Sofa.Node
import Sofa.Lib.Desk

/-! # Signed accesses are answered once

    `g_challenge` is one slot for three flows and all clients.  As a desk of one-time
    tickets, arming issues a ticket (client, access object, nonce), and a signature made or
    checked spends it; `DeskInv` says that an armed challenge is the ticket outstanding.

    The headline, **`challenges_once`**: when the nonces drawn do not repeat and only signed
    transcripts verify, every write or command was armed before by the same client for the
    same object, under a nonce inside the transcript that verified; no challenge serves two
    signatures, and no body takes effect twice. -/

namespace SofaChallenges

open ByteBlock SofaConfig SofaAead SofaOd SofaServer SofaDemo SofaAsym SofaDevice SofaTurn SofaNode
  OneTime StateWp Machine

variable {E : Type} {gcm : Gcm} {ed : Ed25519} {plat : DevicePlatform E} {deviceId : UInt16}

/-! ## What a history records -/

/-- A challenge, as it was handed out. -/
structure Ticket where
  client : UInt16
  object : UInt32
  nonce : RpkNonce

/-- The tickets handed out in a call log. -/
def armings (calls : List Call) : List Ticket :=
  calls.filterMap fun
    | .armed client object nonce => some ⟨client, object, nonce⟩
    | _ => none

/-- The tickets of a history, in order. -/
def issued (history : List Visit) : List Ticket := history.flatMap fun v => armings v.calls

/-- The server nonce inside the transcript of a signed access. -/
def transcriptNonce (transcript : List UInt8) : RpkNonce := slice 16 41 transcript

/-- The transcript a call made or checked a signed access over. -/
def accessOver : Call → Option (List UInt8)
  | .signed role transcript => if role = roleGenericRead then some transcript else none
  | .verified transcript _ _ => some transcript
  | _ => none

/-- The nonces under which a call log made or checked signatures. -/
def spendings (calls : List Call) : List RpkNonce :=
  (calls.filterMap accessOver).map transcriptNonce

/-- Those of a history, in order. -/
def spent (history : List Visit) : List RpkNonce := history.flatMap fun v => spendings v.calls

/-- The effects of a signed access: `write_after`, or a function command. -/
def isEffect : Call → Bool
  | .writeAfter .. | .command _ => true
  | _ => false

/-- A visit that took effect. -/
def Visit.effective (v : Visit) : Bool := v.calls.any isEffect

/-- The visits that took effect, in order. -/
def effects (history : List Visit) : List Visit := history.filter Visit.effective

theorem issued_append (history : List Visit) (v : Visit) :
    issued (history ++ [v]) = issued history ++ armings v.calls := by
  simp [issued]

theorem spent_append (history : List Visit) (v : Visit) :
    spent (history ++ [v]) = spent history ++ spendings v.calls := by
  simp [spent]

/-- A ticket is in a call log when its challenge was armed there. -/
theorem mem_armings {calls : List Call} {t : Ticket} :
    t ∈ armings calls ↔ .armed t.client t.object t.nonce ∈ calls := by
  rw [armings, List.mem_filterMap]
  constructor
  · rintro ⟨call, hcall, hsome⟩
    cases call with
    | armed client object nonce =>
        obtain rfl := Option.some.inj hsome
        exact hcall
    | _ => cases hsome
  · intro h
    exact ⟨_, h, rfl⟩

/-! ## Transcripts of signed accesses -/

/-- The transcript that a signed access of `client` binds. -/
def signedTranscript (deviceId client : UInt16) (role : UInt8) (bind : UInt32)
    (clientNonce : List UInt8) (serverNonce : RpkNonce) (value : List UInt8) : List UInt8 :=
  asymDomain ++ [0x00, asymSigAlg, role]
    ++ buildSignedBody deviceId client bind clientNonce serverNonce value

/-- It holds its server nonce. -/
theorem transcriptNonce_signed {client : UInt16} {role : UInt8} {bind : UInt32}
    {clientNonce value : List UInt8} {serverNonce : RpkNonce}
    (h : clientNonce.length = rpkNonceLen) :
    transcriptNonce (signedTranscript deviceId client role bind clientNonce serverNonce value)
      = serverNonce := by
  have hsplit : signedTranscript deviceId client role bind clientNonce serverNonce value
      = (asymDomain ++ [0x00, asymSigAlg, role] ++ putU16le deviceId ++ putU16le client
          ++ putU32le bind ++ putU16le (UInt16.ofNat value.length) ++ clientNonce)
        ++ (toList serverNonce ++ value) := by
    simp [signedTranscript, buildSignedBody]
  have hlen : (asymDomain ++ [0x00, asymSigAlg, role] ++ putU16le deviceId ++ putU16le client
      ++ putU32le bind ++ putU16le (UInt16.ofNat value.length) ++ clientNonce).length = 41 := by
    have h' : clientNonce.length = 16 := h
    simp [asymDomain, putU16le, putU32le, h']
  rw [transcriptNonce, hsplit]
  have hskip := slice_append_right 16 (asymDomain ++ [0x00, asymSigAlg, role] ++ putU16le deviceId
    ++ putU16le client ++ putU32le bind ++ putU16le (UInt16.ofNat value.length) ++ clientNonce)
    (toList serverNonce ++ value) 0
  rw [hlen] at hskip
  exact hskip.trans (slice_toList_append _ _)

/-! ## The assumptions -/

/-- The nonces handed out never repeat. -/
def FreshNonces (history : List Visit) : Prop := ((issued history).map (·.nonce)).Nodup

/-- A signature that verified is the one made over that transcript. -/
def MadeOver (madeOver : Signature → Option (List UInt8)) : Call → Prop
  | .verified transcript sig true => madeOver sig = some transcript
  | _ => True

instance {madeOver : Signature → Option (List UInt8)} :
    ∀ call, Decidable (MadeOver madeOver call)
  | .verified transcript sig true => inferInstanceAs (Decidable (madeOver sig = some transcript))
  | .verified _ _ false | .armed .. | .signed .. | .readBefore .. | .writeAfter ..
  | .command _ | .claim .. | .decommission => .isTrue trivial

/-- Only signed transcripts verify.  `madeOver` is the transcript that a signature was made
    over, `none` for one that nobody made. -/
def OnlySigned (madeOver : Signature → Option (List UInt8)) (history : List Visit) : Prop :=
  ∀ v ∈ history, ∀ call ∈ v.calls, MadeOver madeOver call

/-! ## The law -/

/-- The signature at the end of a Pass-2 body. -/
def bodySig (req : List UInt8) : Signature := slice 64 (req.length - asymSigSize) req

/-- The visit is authorized under a nonce: a signed write or command whose signature
    verified for a transcript that holds the nonce. -/
structure Authorized (deviceId : UInt16) (nonce : RpkNonce) (v : Visit) : Prop where
  object : v.dataId = rpkGenericWriteId ∨ v.dataId = rpkFunccmdId
  verified : ∃ role bind clientNonce value, clientNonce.length = rpkNonceLen ∧
    .verified (signedTranscript deviceId v.client role bind clientNonce nonce value)
      (bodySig v.req) true ∈ v.calls

/-- An effect goes back to a challenge: armed before by the same client for the same access
    object, under the nonce inside the transcript that verified. -/
def Preceded (deviceId : UInt16) (pre : List Visit) (v : Visit) : Prop :=
  ∃ nonce, Authorized deviceId nonce v ∧ ∃ u ∈ pre, .armed v.client v.dataId nonce ∈ u.calls

/-- The nonces of the challenges that took effect. -/
def effectNonces (history : List Visit) : List RpkNonce :=
  (effects history).flatMap fun v => spendings v.calls

/-- The law of a history. -/
structure ChallengeLaw (history : List Visit) : Prop where
  /-- Distinct effects use distinct challenges. -/
  apart : (effectNonces history).Nodup
  /-- A challenge permits at most one signature to be made or checked. -/
  once : (spent history).Nodup
  /-- No body takes effect twice. -/
  replay : ((effects history).map (·.req)).Nodup

/-- The record of a request. -/
def visit (gcm : Gcm) (ed : Ed25519) (plat : DevicePlatform E) (deviceId : UInt16)
    (d : Device E) (client : UInt16) (dataId : UInt32) (req : List UInt8) : Visit :=
  let w := serveRequest gcm ed plat deviceId d client dataId req
  ⟨client, dataId, req, w.sent, w.calls⟩

/-- The law of a step: its effect goes back to a challenge. -/
def StepPreceded (gcm : Gcm) (ed : Ed25519) (plat : DevicePlatform E) (deviceId : UInt16)
    (n : Node E) : NodeInput E → Prop
  | .request client dataId req =>
      let v := visit gcm ed plat deviceId n.device client dataId req
      Visit.effective v = true → Preceded deviceId n.history v
  | .platform _ => True

/-! ## What a turn does to the challenge -/

/-- The act of a call at the desk of challenges. -/
def callAct : Call → Option (Act Ticket)
  | .armed client object nonce => some (.issued ⟨client, object, nonce⟩)
  | call => (accessOver call).map fun _ => .spent

/-- The desk of a history. -/
def challengeDesk (history : List Visit) : Desk Ticket :=
  desk (history.flatMap fun v => v.calls.filterMap callAct)

theorem challengeDesk_append (history : List Visit) (v : Visit) :
    challengeDesk (history ++ [v])
      = (v.calls.filterMap callAct).foldl Desk.record (challengeDesk history) := by
  rw [challengeDesk, List.flatMap_append, desk_append, List.flatMap_singleton]
  rfl

/-- What a visit does to the challenge. -/
inductive ChallengeEffect (deviceId : UInt16) (d d' : Device E) (v : Visit) : Prop where
  /-- Nothing, or it takes the challenge down. -/
  | quiet (acts : v.calls.filterMap callAct = []) (tickets : armings v.calls = [])
      (spends : spendings v.calls = []) (idle : Visit.effective v = false)
      (still : d'.challenge.armed = true → d'.challenge = d.challenge)
  /-- It arms one. -/
  | armed {nonce : RpkNonce} (acts : v.calls.filterMap callAct
        = [.issued ⟨v.client, v.dataId, nonce⟩])
      (tickets : armings v.calls = [⟨v.client, v.dataId, nonce⟩])
      (spends : spendings v.calls = []) (idle : Visit.effective v = false)
      (now : d'.challenge = ⟨true, v.client, v.dataId, nonce⟩)
  /-- It makes or checks a signature under the one outstanding, and takes it down. -/
  | spent (held : HeldBy d.challenge v.client v.dataId)
      (acts : v.calls.filterMap callAct = [.spent]) (tickets : armings v.calls = [])
      (spends : spendings v.calls = [d.challenge.serverNonce])
      (down : d'.challenge.armed = false)
      (effect : Visit.effective v = true → Authorized deviceId d.challenge.serverNonce v)

/-- The transcript that is checked holds the outstanding nonce. -/
theorem verifyTranscript_eq {d : Device E} {client : UInt16} {dataId : UInt32}
    {req : List UInt8} (body : Pass2Body dataId req) :
    verifyTranscript d deviceId client dataId req
      = signedTranscript deviceId client (accessOf dataId req).role (accessOf dataId req).bind
        (accessOf dataId req).clientNonce d.challenge.serverNonce (accessOf dataId req).value :=
  accessTranscript_of_fits (pass2_lengths body).1 (pass2_lengths body).2

theorem verifyTranscript_nonce {d : Device E} {client : UInt16} {dataId : UInt32}
    {req : List UInt8} (body : Pass2Body dataId req) :
    transcriptNonce (verifyTranscript d deviceId client dataId req)
      = d.challenge.serverNonce := by
  rw [verifyTranscript_eq body]
  exact transcriptNonce_signed (pass2_lengths body).1

/-- The signature that is checked is the one at the end of the body. -/
theorem accessOf_sig {dataId : UInt32} {req : List UInt8} (body : Pass2Body dataId req) :
    (accessOf dataId req).sig = bodySig req := by
  obtain ⟨rfl, hmin, -⟩ | ⟨rfl, hlen⟩ := body
  · have hmin' : 83 ≤ req.length := hmin
    have hoff : 19 + (req.length - 83) = req.length - 64 := by omega
    rw [accessOf, if_neg (by decide)]
    show slice 64 (19 + (req.length - 83)) req = slice 64 (req.length - 64) req
    rw [hoff]
  · have hlen' : req.length = 84 := hlen
    rw [accessOf, if_pos rfl]
    show slice 64 20 req = slice 64 (req.length - 64) req
    rw [hlen']

/-- **Every turn has one of the effects.** -/
theorem challenge_effect {d d' : Device E} {client : UInt16} {dataId : UInt32}
    {req : List UInt8} {sent : List Reply} {calls : List Call}
    (hturn : Turn gcm ed plat deviceId client dataId req d sent calls d') :
    ChallengeEffect deviceId d d' ⟨client, dataId, req, sent, calls⟩ := by
  -- a signature that verified authorizes the access
  have hauth : ∀ {peer : Pubkey} {sent : List Reply} {calls : List Call},
      (dataId = rpkGenericWriteId ∨ dataId = rpkFunccmdId) →
      Attempt d client dataId req peer →
      Call.verified (verifyTranscript d deviceId client dataId req) (accessOf dataId req).sig true
        ∈ calls →
      Authorized deviceId d.challenge.serverNonce ⟨client, dataId, req, sent, calls⟩ := by
    intro peer sent calls hobj hattempt hmem
    rw [verifyTranscript_eq hattempt.body, accessOf_sig hattempt.body] at hmem
    exact ⟨hobj, _, _, _, _, (pass2_lengths hattempt.body).1, hmem⟩
  cases hturn with
  | answered => exact .quiet rfl rfl rfl rfl fun _ => rfl
  | identity object => exact .quiet rfl rfl rfl rfl fun _ => rfl
  | exported object generated => exact .quiet rfl rfl rfl rfl fun _ => rfl
  | provisioned object installed => exact .quiet rfl rfl rfl rfl fun _ => rfl
  | claimRefused object refused => exact .quiet rfl rfl rfl rfl fun _ => rfl
  | claimed object accepted => exact .quiet rfl rfl rfl rfl fun _ => rfl
  | armed object drawn => exact .armed rfl rfl rfl rfl rfl
  | armFailed => exact .quiet rfl rfl rfl rfl fun _ => rfl
  | readRefused object held hook => exact .quiet rfl rfl rfl rfl fun h => by cases h
  | readSigned object held len short hook =>
      refine .spent held rfl rfl ?_ rfl (fun h => by cases h)
      have hnonce : (req.drop 3).length = rpkNonceLen := by
        rw [List.length_drop, len]
        rfl
      show [transcriptNonce (accessTranscript d deviceId client roleGenericRead (targetId req)
        (req.drop 3) _)] = _
      rw [accessTranscript_of_fits hnonce short]
      exact congrArg (fun x => [x]) (transcriptNonce_signed hnonce)
  | noPeer held peer => exact .quiet rfl rfl rfl rfl fun h => by cases h
  | forged attempt bad =>
      refine .spent attempt.held rfl rfl ?_ rfl (fun h => by cases h)
      exact congrArg (fun x => [x]) (verifyTranscript_nonce attempt.body)
  | written object attempt good hook =>
      refine .spent attempt.held rfl rfl ?_ rfl
        (fun _ => hauth (.inl object) attempt List.mem_cons_self)
      exact congrArg (fun x => [x]) (verifyTranscript_nonce attempt.body)
  | commanded object attempt good code =>
      refine .spent attempt.held rfl rfl ?_ rfl
        (fun _ => hauth (.inr object) attempt List.mem_cons_self)
      exact congrArg (fun x => [x]) (verifyTranscript_nonce attempt.body)
  | decommissioned object attempt good code =>
      refine .spent attempt.held rfl rfl ?_ rfl
        (fun _ => hauth (.inr object) attempt List.mem_cons_self)
      exact congrArg (fun x => [x]) (verifyTranscript_nonce attempt.body)
  | secured => exact .quiet rfl rfl rfl rfl fun _ => rfl

/-! ## The invariant -/

/-- The challenge is the desk of the history, and every visit that took effect spent one
    ticket. -/
structure DeskInv (deviceId : UInt16) (n : Node E) : Prop where
  held : n.device.challenge.armed = true → (challengeDesk n.history).outstanding
    = some ⟨n.device.challenge.clientDev, n.device.challenge.dataId,
        n.device.challenge.serverNonce⟩
  tickets : (challengeDesk n.history).issued = issued n.history
  spends : spent n.history = (challengeDesk n.history).spent.map (·.nonce)
  uses : ∀ v ∈ n.history, Visit.effective v = true →
    ∃ nonce, Authorized deviceId nonce v ∧ spendings v.calls = [nonce]

/-- **One turn keeps it.** -/
theorem deskInv_turn {n : Node E} {client : UInt16} {dataId : UInt32} {req : List UInt8}
    {sent : List Reply} {calls : List Call} {device : Device E} (h : DeskInv deviceId n)
    (hturn : Turn gcm ed plat deviceId client dataId req n.device sent calls device) :
    DeskInv deviceId ⟨device, n.history ++ [⟨client, dataId, req, sent, calls⟩]⟩ := by
  have heffect := challenge_effect hturn
  generalize hv : (⟨client, dataId, req, sent, calls⟩ : Visit) = v at heffect ⊢
  have huses : (Visit.effective v = true →
      ∃ nonce, Authorized deviceId nonce v ∧ spendings v.calls = [nonce]) →
      ∀ u ∈ n.history ++ [v], Visit.effective u = true →
        ∃ nonce, Authorized deviceId nonce u ∧ spendings u.calls = [nonce] := by
    intro hlast u hu
    rcases List.mem_append.mp hu with hu | hu
    · exact h.uses u hu
    · obtain rfl := List.mem_singleton.mp hu
      exact hlast
  cases heffect with
  | quiet acts tickets spends idle still =>
      have hdesk : challengeDesk (n.history ++ [v]) = challengeDesk n.history := by
        rw [challengeDesk_append, acts]
        rfl
      refine ⟨fun harmed => ?_, ?_, ?_, huses fun heff => ?_⟩
      · have hsame := still harmed
        rw [hdesk, hsame]
        exact h.held (hsame ▸ harmed)
      · rw [hdesk, issued_append, tickets, List.append_nil]
        exact h.tickets
      · rw [hdesk, spent_append, spends, List.append_nil]
        exact h.spends
      · rw [idle] at heff
        cases heff
  | @armed nonce acts tickets spends idle now =>
      have hdesk : challengeDesk (n.history ++ [v])
          = (challengeDesk n.history).record (.issued ⟨v.client, v.dataId, nonce⟩) := by
        rw [challengeDesk_append, acts]
        rfl
      refine ⟨fun _ => ?_, ?_, ?_, huses fun heff => ?_⟩
      · rw [hdesk, now]
        rfl
      · rw [hdesk, issued_append, tickets, ← h.tickets]
        rfl
      · rw [hdesk, spent_append, spends, List.append_nil]
        exact h.spends
      · rw [idle] at heff
        cases heff
  | spent held acts tickets spends down effect =>
      have hdesk : challengeDesk (n.history ++ [v]) = (challengeDesk n.history).record .spent := by
        rw [challengeDesk_append, acts]
        rfl
      refine ⟨fun harmed => ?_, ?_, ?_, huses fun heff => ⟨_, effect heff, spends⟩⟩
      · rw [down] at harmed
        cases harmed
      · rw [hdesk, issued_append, tickets, List.append_nil]
        exact h.tickets
      · have hout := h.held held.armed
        rw [hdesk, spent_append, spends, h.spends, Desk.record, hout]
        simp

/-- And so does every step. -/
theorem deskInv_step (n : Node E) (a : NodeInput E) (h : DeskInv deviceId n) (_ : True) :
    DeskInv deviceId (nodeStep gcm ed plat deviceId n a) := by
  refine node_invariant (C := fun _ _ => True) ?_ ?_ n a h trivial
  · intro n client dataId req sent calls device h _ hturn
    exact deskInv_turn h hturn
  · intro n env h
    exact ⟨h.held, h.tickets, h.spends, h.uses⟩

/-- It holds with nothing armed. -/
theorem deskInv_start {d : Device E} (hidle : d.challenge.armed = false) :
    DeskInv deviceId (⟨d, []⟩ : Node E) := by
  refine ⟨fun h => ?_, rfl, rfl, by simp⟩
  rw [hidle] at h
  cases h

/-- The invariant holds after every run. -/
theorem deskInv_run {d : Device E} (hidle : d.challenge.armed = false)
    (inputs : List (NodeInput E)) :
    DeskInv deviceId (nodeAfter gcm ed plat deviceId d inputs) :=
  run_induction (P := fun _ _ => True) deskInv_step (deskInv_start hidle)
    (along_of_forall (fun _ _ => trivial) _ _)

/-! ## The headline -/

/-- The ticket behind an effect is in the history. -/
theorem preceded_step {n : Node E} (h : DeskInv deviceId n) (a : NodeInput E) :
    StepPreceded gcm ed plat deviceId n a := by
  cases a with
  | platform env => trivial
  | request client dataId req =>
      show Visit.effective (visit gcm ed plat deviceId n.device client dataId req) = true →
        Preceded deviceId n.history (visit gcm ed plat deviceId n.device client dataId req)
      intro heff
      have hturn : Turn gcm ed plat deviceId client dataId req n.device _ _ _ :=
        dispatchRequest_turn
      have heffect : ChallengeEffect deviceId n.device _
        (visit gcm ed plat deviceId n.device client dataId req) := challenge_effect hturn
      generalize visit gcm ed plat deviceId n.device client dataId req = v at heff heffect ⊢
      cases heffect with
      | quiet acts tickets spends idle still =>
          rw [idle] at heff
          cases heff
      | armed acts tickets spends idle now =>
          rw [idle] at heff
          cases heff
      | spent held acts tickets spends down effect =>
          refine ⟨_, effect heff, ?_⟩
          -- the ticket outstanding was issued by an earlier visit
          have hmem := (desk_accounted _).outstanding _ (h.held held.armed)
          rw [← challengeDesk, h.tickets] at hmem
          obtain ⟨u, hu, hticket⟩ := List.mem_flatMap.mp hmem
          refine ⟨u, hu, ?_⟩
          rw [← held.client, ← held.object]
          exact mem_armings.mp hticket

/-- No nonce is handed out twice, so none is spent twice. -/
theorem spent_nodup {n : Node E} (h : DeskInv deviceId n) (hfresh : FreshNonces n.history) :
    (spent n.history).Nodup := by
  have hissued : (challengeDesk n.history).issued.Nodup := by
    rw [h.tickets]
    exact hfresh.of_map
  have hsound : (challengeDesk n.history).Sound := desk_sound _ hissued
  have haccounted : (challengeDesk n.history).Accounted := desk_accounted _
  rw [h.spends]
  refine hsound.once.map_on ?_
  intro t ht u hu hnonce
  have ht' := haccounted.spent t ht
  have hu' := haccounted.spent u hu
  rw [h.tickets] at ht' hu'
  exact List.inj_on_of_nodup_map hfresh ht' hu' hnonce

/-- Equal bodies carry one signature, which was made over one transcript and so under one
    nonce. -/
theorem replay_nonce {madeOver : Signature → Option (List UInt8)} {history : List Visit}
    (hsigned : OnlySigned madeOver history) {u v : Visit} {x y : RpkNonce}
    (hu : u ∈ history) (hv : v ∈ history) (hx : Authorized deviceId x u)
    (hy : Authorized deviceId y v) (hreq : u.req = v.req) : x = y := by
  obtain ⟨role, bind, clientNonce, value, hlen, hverified⟩ := hx.verified
  obtain ⟨role', bind', clientNonce', value', hlen', hverified'⟩ := hy.verified
  have hmade : madeOver (bodySig u.req) = some _ := hsigned u hu _ hverified
  have hmade' : madeOver (bodySig v.req) = some _ := hsigned v hv _ hverified'
  rw [hreq, hmade'] at hmade
  have hone := Option.some.inj hmade
  calc x = transcriptNonce (signedTranscript deviceId u.client role bind clientNonce x value) :=
        (transcriptNonce_signed hlen).symm
    _ = transcriptNonce (signedTranscript deviceId v.client role' bind' clientNonce' y value') :=
        congrArg transcriptNonce hone.symm
    _ = y := transcriptNonce_signed hlen'

/-- **Signed accesses are answered once**, in every interleaving of requests from every
    start configuration. -/
theorem challenges_once (gcm : Gcm) (ed : Ed25519) (plat : DevicePlatform E)
    (deviceId : UInt16) (cfg : BootConfig) (env : E) (d : Device E)
    (hstart : odInit ed cfg env = some d) (inputs : List (NodeInput E))
    (madeOver : Signature → Option (List UInt8))
    (hfresh : FreshNonces (nodeAfter gcm ed plat deviceId d inputs).history)
    (hsigned : OnlySigned madeOver (nodeAfter gcm ed plat deviceId d inputs).history) :
    Along (nodeStep gcm ed plat deviceId) (StepPreceded gcm ed plat deviceId) ⟨d, []⟩ inputs ∧
      ChallengeLaw (nodeAfter gcm ed plat deviceId d inputs).history := by
  have hidle : d.challenge.armed = false := by
    obtain ⟨constOd, registry, keys, -, -, -, rfl⟩ := odInit_cases hstart
    rfl
  have hstep : ∀ (n : Node E) a, DeskInv deviceId n → True →
      DeskInv deviceId (nodeStep gcm ed plat deviceId n a) := deskInv_step
  refine ⟨along_imp (P := fun _ _ => True) hstep (fun n a h _ => preceded_step h a)
    (deskInv_start hidle) (along_of_forall (fun _ _ => trivial) _ _), ?_⟩
  have hinv : DeskInv deviceId (nodeAfter gcm ed plat deviceId d inputs) :=
    deskInv_run hidle inputs
  generalize nodeAfter gcm ed plat deviceId d inputs = n at hfresh hsigned hinv ⊢
  have honce := spent_nodup hinv hfresh
  have hapart : (effectNonces n.history).Nodup :=
    honce.sublist (List.filter_sublist.flatMap _)
  refine ⟨hapart, honce, ?_⟩
  -- equal bodies would have spent one nonce twice
  have hdisjoint := (List.nodup_flatMap.mp hapart).2
  refine List.pairwise_map.mpr (hdisjoint.imp_of_mem ?_)
  intro u v hu hv hdis hreq
  obtain ⟨hu, heffu⟩ := List.mem_filter.mp hu
  obtain ⟨hv, heffv⟩ := List.mem_filter.mp hv
  obtain ⟨x, hx, hspentx⟩ := hinv.uses u hu heffu
  obtain ⟨y, hy, hspenty⟩ := hinv.uses v hv heffv
  obtain rfl := replay_nonce hsigned hu hv hx hy hreq
  have hmemu : x ∈ spendings u.calls := by rw [hspentx]; exact List.mem_singleton_self x
  have hmemv : x ∈ spendings v.calls := by rw [hspenty]; exact List.mem_singleton_self x
  exact hdis hmemu hmemv

/-! ## A worked run -/

/-- A command is armed and executed, armed once more, and offered again. -/
def sampleReplayed : List (NodeInput SampleEnv) :=
  [.request 20 rpkFunccmdId [],
    .request 20 rpkFunccmdId (sampleCommand 20 (sampleNonce 1) cmdFactoryRestore),
    .request 20 rpkFunccmdId [],
    .request 20 rpkFunccmdId (sampleCommand 20 (sampleNonce 1) cmdFactoryRestore)]

/-- The demo device, with two nonces to draw. -/
def sampleTwice : Device SampleEnv :=
  (odInit sampleEd {} { nonces := [sampleNonce 1, sampleNonce 2] }).get (by decide +kernel)

/-- The one signature of that run, and the transcript it was made over. -/
def sampleMadeOver (sig : Signature) : Option (List UInt8) :=
  let command := sampleCommand 20 (sampleNonce 1) cmdFactoryRestore
  let transcript := signedTranscript sampleNodeId 20 roleFunctionCmd rpkFunccmdId
    (toList (sampleNonce 0x40)) (sampleNonce 1) (putU32le cmdFactoryRestore)
  if toList sig = toList (bodySig command) then some transcript else none

/-- `challenges_once` on that run: the second time, the body takes no effect. -/
theorem sampleReplayed_once :
    let n := nodeAfter sampleGcm sampleEd samplePlatform sampleNodeId sampleTwice sampleReplayed
    n.history.map Visit.effective = [false, true, false, false] ∧ ChallengeLaw n.history :=
  ⟨by decide +kernel,
    (challenges_once _ _ _ _ {} { nonces := [sampleNonce 1, sampleNonce 2] } sampleTwice
      (Option.some_get _).symm sampleReplayed sampleMadeOver
      (by unfold FreshNonces; decide +kernel)
      (by unfold OnlySigned; decide +kernel)).2⟩

end SofaChallenges
