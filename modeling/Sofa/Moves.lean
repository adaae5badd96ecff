import Sofa.SecureOd
import Sofa.Lib.StateWp

/-! # What one dispatch can do

    `Move` lists every outcome of one call of the dispatcher on a registered
    entry: which calls it made, what it returned, and how the module state
    changed.  `sodDispatch_move` proves the list complete, branch by branch;
    every invariant of the server is derived from it. -/

namespace SofaMoves

open ByteBlock SofaConfig SofaAead SofaOd StateWp

variable {H : Type} {gcm : Gcm} {P : Ports H}

/-! ## Port calls, executed -/

section Ports

variable {w : World H}

theorem wp_portTime {Q : UInt16 → World H → Prop} :
    wp (portTime P) Q w ↔ ∀ now host, P.timeMs w.host = (now, host) →
      Q now ⟨w.sod, host, w.log ++ [.time now]⟩ := by
  simp [wp, portTime, Prod.ext_iff]

theorem wp_portRandom {Q : Option Rand → World H → Prop} :
    wp (portRandom P) Q w ↔ ∀ r host, P.random w.host = (r, host) →
      Q r ⟨w.sod, host, w.log ++ [.random r]⟩ := by
  simp [wp, portRandom, Prod.ext_iff]

theorem wp_portAccessAllowed {Q : Bool → World H → Prop} {op : Op} {d : UInt32} :
    wp (portAccessAllowed P op d) Q w ↔ ∀ ok host, P.accessAllowed op d w.host = (ok, host) →
      Q ok ⟨w.sod, host, w.log ++ [.accessAllowed op d ok]⟩ := by
  simp [wp, portAccessAllowed, Prod.ext_iff]

theorem wp_portRoleAllowed {Q : Bool → World H → Prop} {op : Op} {b : UInt8} {d : UInt32} :
    wp (portRoleAllowed P op b d) Q w ↔ ∀ ok host, P.roleAllowed op b d w.host = (ok, host) →
      Q ok ⟨w.sod, host, w.log ++ [.roleAllowed op b d ok]⟩ := by
  simp [wp, portRoleAllowed, Prod.ext_iff]

theorem wp_portReadBefore {Q : Abort × List UInt8 → World H → Prop} {d : UInt32} :
    wp (portReadBefore P d) Q w ↔ ∀ rc plain host, P.readBefore d w.host = ((rc, plain), host) →
      Q (rc, plain) ⟨w.sod, host, w.log ++ [.readBefore d rc plain]⟩ := by
  simp [wp, portReadBefore, Prod.ext_iff]

theorem wp_portWriteAfter {Q : Abort → World H → Prop} {d : UInt32} {src : List UInt8} :
    wp (portWriteAfter P d src) Q w ↔ ∀ rc keys host,
      P.writeAfter d src w.sod.lastWriteKid w.sod.keys w.host = (rc, keys, host) →
      Q rc ⟨{ w.sod with keys := keys }, host,
        w.log ++ [.writeAfter d src w.sod.lastWriteKid rc]⟩ := by
  simp [wp, portWriteAfter, Prod.ext_iff]

theorem wp_callSeal {Q : Option (List UInt8 × Tag) → World H → Prop} {c : AeadCall}
    {p : List UInt8} :
    wp (callSeal gcm c p) Q w ↔ ∀ out, aeadSeal gcm c p = out →
      Q out ⟨w.sod, w.host, w.log ++ [.aeadSeal c p out]⟩ := by
  simp [wp, callSeal]

theorem wp_callOpen {Q : Option (List UInt8) → World H → Prop} {c : AeadCall}
    {ct : List UInt8} {t : Tag} :
    wp (callOpen gcm c ct t) Q w ↔ ∀ out, aeadOpen gcm c ct t = out →
      Q out ⟨w.sod, w.host, w.log ++ [.aeadOpen c ct t out]⟩ := by
  simp [wp, callOpen]

theorem wp_getReadSlot {Q : ReadSlot → World H → Prop} {i : Fin sodMaxEntries} :
    wp (getReadSlot i) Q w ↔ Q (w.sod.readSlot i) w := Iff.rfl

theorem wp_getWriteSlot {Q : WriteSlot → World H → Prop} {i : Fin sodMaxEntries} :
    wp (getWriteSlot i) Q w ↔ Q (w.sod.writeSlot i) w := Iff.rfl

theorem wp_setReadSlot {Q : Unit → World H → Prop} {i : Fin sodMaxEntries}
    {x : ReadSlot} :
    wp (setReadSlot i x) Q w ↔ Q () { w with sod := w.sod.setRead i x } := Iff.rfl

theorem wp_setWriteSlot {Q : Unit → World H → Prop} {i : Fin sodMaxEntries}
    {x : WriteSlot} :
    wp (setWriteSlot i x) Q w ↔ Q () { w with sod := w.sod.setWrite i x } := Iff.rfl

theorem wp_setLastWriteKid {Q : Unit → World H → Prop} {b : UInt8} :
    wp (setLastWriteKid b) Q w ↔ Q () { w with sod := { w.sod with lastWriteKid := b } } :=
  Iff.rfl

theorem wp_getKey {Q : Option Key → World H → Prop} {b : UInt8} :
    wp (getKey b) Q w ↔ Q (w.sod.keys.getKey b) w := Iff.rfl

theorem wp_slotIsFresh {Q : Bool → World H → Prop} {a : UInt16} :
    wp (slotIsFresh P a) Q w ↔ ∀ now host, P.timeMs w.host = (now, host) →
      Q (ageWithin now a challengeTimeoutMs) ⟨w.sod, host, w.log ++ [.time now]⟩ := by
  unfold slotIsFresh
  simp only [wp_bind, wp_portTime, wp_pure]

theorem wp_sessionIsFresh {Q : Bool → World H → Prop} {a : UInt16} :
    wp (sessionIsFresh P a) Q w ↔ ∀ now host, P.timeMs w.host = (now, host) →
      Q (ageWithin now a sessionIdleTimeoutMs) ⟨w.sod, host, w.log ++ [.time now]⟩ := by
  unfold sessionIsFresh
  simp only [wp_bind, wp_portTime, wp_pure]

end Ports

/-! ## Events -/

/-- Port calls that carry neither AEAD work, nor randomness, nor a write. -/
def EventPassive : Event → Prop
  | .time _ | .accessAllowed .. | .roleAllowed .. | .readBefore .. => True
  | .random r => r = none
  | .writeAfter .. | .aeadSeal .. | .aeadOpen .. => False

/-- As `EventPassive`, or a random that was drawn and not used. -/
def EventQuiet : Event → Prop
  | .random _ => True
  | e => EventPassive e

theorem EventPassive.quiet {e : Event} (h : EventPassive e) : EventQuiet e := by
  cases e <;> simp_all [EventPassive, EventQuiet]

/-- Every event of the list is passive. -/
def Passive (l : List Event) : Prop := ∀ e ∈ l, EventPassive e

/-- Every event of the list is quiet. -/
def Quiet (l : List Event) : Prop := ∀ e ∈ l, EventQuiet e

theorem Passive.quiet {l : List Event} (h : Passive l) : Quiet l := fun e he => (h e he).quiet

@[simp] theorem passive_nil : Passive [] := by simp [Passive]
@[simp] theorem quiet_nil : Quiet [] := by simp [Quiet]

@[simp] theorem passive_cons {e : Event} {l : List Event} :
    Passive (e :: l) ↔ EventPassive e ∧ Passive l := by simp [Passive]

@[simp] theorem quiet_cons {e : Event} {l : List Event} :
    Quiet (e :: l) ↔ EventQuiet e ∧ Quiet l := by simp [Quiet]

@[simp] theorem passive_append {l m : List Event} :
    Passive (l ++ m) ↔ Passive l ∧ Passive m := by
  simp [Passive, or_imp, forall_and]

@[simp] theorem quiet_append {l m : List Event} : Quiet (l ++ m) ↔ Quiet l ∧ Quiet m := by
  simp [Quiet, or_imp, forall_and]

/-! ## The pieces of a frame -/

/-- The client random a read challenge or a write Pass-2 frame carries. -/
def reqRandom (req : List UInt8) : Rand := slice 12 1 req

/-- The key id byte, or the counter byte, that leads a request. -/
def reqHead (req : List UInt8) : UInt8 := req.getD 0 0

/-- The AEAD call that opens a write Pass-2 frame. -/
def pass2Call (P : Ports H) (slot : WriteSlot) (entry : SodEntry) (req : List UInt8)
    (key : Key) : AeadCall :=
  serverCall P key (aeadXorNonce (reqRandom req) slot.serverRandom) dirWriteRequest (reqHead req)
    slot.clientDev entry.dataId (some (reqRandom req, slot.serverRandom))

def pass2Cipher (entry : SodEntry) (req : List UInt8) : List UInt8 :=
  (req.drop (1 + aeadRandSize)).take entry.dataLen

def pass2Tag (entry : SodEntry) (req : List UInt8) : Tag :=
  slice 16 (1 + aeadRandSize + entry.dataLen) req

/-- The AEAD call that opens a write poll. -/
def writePollCall (P : Ports H) (slot : WriteSlot) (entry : SodEntry) (key : Key) : AeadCall :=
  serverCall P key (buildSessionNonce slot.nonceBase (slot.counter + 1)) dirWritePollRequest
    slot.keyId slot.clientDev entry.dataId none

def writePollCipher (entry : SodEntry) (req : List UInt8) : List UInt8 :=
  (req.drop 1).take entry.dataLen

def writePollTag (entry : SodEntry) (req : List UInt8) : Tag :=
  slice 16 (1 + entry.dataLen) req

/-- The AEAD call that seals a read response. -/
def readArmCall (P : Ports H) (client : UInt16) (entry : SodEntry) (req : List UInt8)
    (key : Key) (serverRandom : Rand) : AeadCall :=
  serverCall P key (aeadXorNonce (reqRandom req) serverRandom) dirReadResponse (reqHead req)
    client entry.dataId (some (reqRandom req, serverRandom))

/-- The AEAD call that seals a read poll. -/
def readPollCall (P : Ports H) (slot : ReadSlot) (entry : SodEntry) (key : Key) : AeadCall :=
  serverCall P key (buildSessionNonce slot.nonceBase (slot.counter + 1)) dirReadPollResponse
    slot.keyId slot.clientDev entry.dataId none

/-- The slot `arm_read_response` leaves behind. -/
def armedReadSlot (client : UInt16) (req : List UInt8) (serverRandom : Rand)
    (cipher : List UInt8) (tag : Tag) (now : UInt16) : ReadSlot where
  inUse := true
  cyclic := keyidIsCyclic (reqHead req)
  clientDev := client
  armedAt := now
  prepared := toList serverRandom ++ cipher ++ toList tag
  keyId := if keyidIsCyclic (reqHead req) then reqHead req else 0
  nonceBase := if keyidIsCyclic (reqHead req) then aeadXorNonce (reqRandom req) serverRandom
    else zero 12
  counter := 0

/-- The slot `arm_write_challenge` leaves behind. -/
def armedWriteSlot (client : UInt16) (wire : Option UInt8) (serverRandom : Rand)
    (now : UInt16) : WriteSlot where
  inUse := true
  cyclic := wire.isSome
  clientDev := client
  armedAt := now
  keyId := wire.getD 0
  serverRandom := serverRandom

/-! ## Ownership -/

/-- The freshness window `slot_held_by_other` applies. -/
def heldTimeout (cyclic : Bool) : UInt16 :=
  if cyclic then sessionIdleTimeoutMs else challengeTimeoutMs

/-- The arming guard let `client` through: the slot was free, its own, or stale
    at a clock reading of this dispatch. -/
def ArmGuard (inUse cyclic : Bool) (owner armedAt client : UInt16) (log : List Event) : Prop :=
  inUse = true → owner ≠ client →
    ∃ now, Event.time now ∈ log ∧ ageWithin now armedAt (heldTimeout cyclic) = false

/-! ## Moves -/

/-- The read side answers the request: a challenge, a poll of a live session, or a
    fetch of a prepared reply that is still fresh when the request arrives. -/
def readAnswers (arrival : UInt16) (slot : ReadSlot) (entry : SodEntry) (req : List UInt8) :
    Bool :=
  entry.hasRo && (req.length == readChallengeLen
    || (req.length == 1 && slot.inUse && slot.cyclic)
    || (req.length == 0 && slot.inUse && slot.prepared.length > 0
      && ageWithin arrival slot.armedAt challengeTimeoutMs))

/-- The facts that hold when a write Pass-2 frame reaches the tag check. -/
structure Pass2Checked (P : Ports H) (s : Sod) (idx : Fin sodMaxEntries) (entry : SodEntry)
    (req : List UInt8) (now : UInt16) (key : Key) : Prop where
  wo : entry.hasWo = true
  inUse : (s.writeSlot idx).inUse = true
  fresh : ageWithin now (s.writeSlot idx).armedAt challengeTimeoutMs = true
  len : req.length = pass2Len entry
  reserved : keyidReserved (reqHead req) = 0
  binding : entry.acceptsKey (keyidBase (reqHead req)) = true
  installed : s.keys.getKey (keyidBase (reqHead req)) = some key

/-- The facts that hold when a write poll reaches the tag check. -/
structure WritePollChecked (s : Sod) (idx : Fin sodMaxEntries) (entry : SodEntry)
    (client : UInt16) (req : List UInt8) (now : UInt16) (key : Key) : Prop where
  wo : entry.hasWo = true
  inUse : (s.writeSlot idx).inUse = true
  cyclic : (s.writeSlot idx).cyclic = true
  owner : (s.writeSlot idx).clientDev = client
  fresh : ageWithin now (s.writeSlot idx).armedAt sessionIdleTimeoutMs = true
  len : req.length = pollLen entry
  counter : UInt8.ofNat ((s.writeSlot idx).counter + 1) = reqHead req
  budget : (s.writeSlot idx).counter < keyUseLimit
  installed : s.keys.getKey (keyidBase (s.writeSlot idx).keyId) = some key

/-- The facts that hold when a read poll reaches the seal. -/
structure ReadPollChecked (s : Sod) (idx : Fin sodMaxEntries) (entry : SodEntry)
    (client : UInt16) (req : List UInt8) (now : UInt16) (key : Key) (plain : List UInt8) :
    Prop where
  ro : entry.hasRo = true
  inUse : (s.readSlot idx).inUse = true
  cyclic : (s.readSlot idx).cyclic = true
  owner : (s.readSlot idx).clientDev = client
  fresh : ageWithin now (s.readSlot idx).armedAt sessionIdleTimeoutMs = true
  len : req.length = 1
  counter : UInt8.ofNat ((s.readSlot idx).counter + 1) = reqHead req
  budget : (s.readSlot idx).counter < keyUseLimit
  full : plain.length = entry.dataLen
  installed : s.keys.getKey (keyidBase (s.readSlot idx).keyId) = some key

/-- The facts that hold when a read challenge reaches the seal. -/
structure ReadArmChecked (s : Sod) (idx : Fin sodMaxEntries) (entry : SodEntry)
    (client : UInt16) (req : List UInt8) (key : Key) (plain : List UInt8)
    (pre : List Event) : Prop where
  ro : entry.hasRo = true
  len : req.length = readChallengeLen
  reserved : keyidReserved (reqHead req) = 0
  binding : entry.acceptsKey (keyidBase (reqHead req)) = true
  installed : s.keys.getKey (keyidBase (reqHead req)) = some key
  full : plain.length = entry.dataLen
  passive : Passive pre
  gate : Event.accessAllowed .read entry.dataId true ∈ pre
  source : Event.readBefore entry.dataId abortNone plain ∈ pre
  guard : ArmGuard (s.readSlot idx).inUse (s.readSlot idx).cyclic (s.readSlot idx).clientDev
    (s.readSlot idx).armedAt client pre

/-- **One dispatch on a registered entry**: the calls it made, what it returned
    and the module state after it; `arrival` is the clock as the request arrives.
    The constructors follow the branches of the
    source; the ones named `...Dropped` and `...Lapsed` tear a slot down. -/
inductive Move (gcm : Gcm) (P : Ports H) (client : UInt16) (req : List UInt8) (arrival : UInt16)
    (s : Sod) (idx : Fin sodMaxEntries) (entry : SodEntry) :
    List Event → SodResult → Sod → Prop where
  /-- Refused with no effect. -/
  | refused {log : List Event} {code : Abort} (quiet : Quiet log) :
      Move gcm P client req arrival s idx entry log (.abort code) s
  /-- The read response could not be sealed; the slot was already cleared. -/
  | readArmFailed {pre : List Event} {key : Key} {plain : List UInt8} {sr : Rand}
      (checked : ReadArmChecked s idx entry client req key plain pre)
      (sealed : aeadSeal gcm (readArmCall P client entry req key sr) plain = none) :
      Move gcm P client req arrival s idx entry
        (pre ++ [.random (some sr), .aeadSeal (readArmCall P client entry req key sr) plain none])
        (.abort abortInternal) (s.setRead idx {})
  /-- A read challenge armed the read slot. -/
  | readArmed {pre : List Event} {key : Key} {plain cipher : List UInt8} {sr : Rand}
      {tag : Tag} {now : UInt16}
      (checked : ReadArmChecked s idx entry client req key plain pre)
      (sealed : aeadSeal gcm (readArmCall P client entry req key sr) plain = some (cipher, tag)) :
      Move gcm P client req arrival s idx entry
        (pre ++ [.random (some sr),
          .aeadSeal (readArmCall P client entry req key sr) plain (some (cipher, tag)),
          .time now])
        .defer (s.setRead idx (armedReadSlot client req sr cipher tag now))
  /-- The prepared reply does not fit the reply buffer. -/
  | fetchDropped (ro : entry.hasRo = true) (empty : req = [])
      (inUse : (s.readSlot idx).inUse = true) (ready : (s.readSlot idx).prepared ≠ [])
      (fresh : ageWithin arrival (s.readSlot idx).armedAt challengeTimeoutMs = true) :
      Move gcm P client req arrival s idx entry [.time arrival] (.abort abortInternal)
        (s.setRead idx { s.readSlot idx with inUse := false })
  /-- A single-shot reply was delivered. -/
  | fetchedOnce (ro : entry.hasRo = true) (empty : req = [])
      (inUse : (s.readSlot idx).inUse = true) (ready : (s.readSlot idx).prepared ≠ [])
      (fresh : ageWithin arrival (s.readSlot idx).armedAt challengeTimeoutMs = true)
      (single : (s.readSlot idx).cyclic = false) :
      Move gcm P client req arrival s idx entry [.time arrival] (.ok (s.readSlot idx).prepared)
        (s.setRead idx { s.readSlot idx with inUse := false })
  /-- The first reply of a cyclic session was delivered. -/
  | fetchedCyclic {now' : UInt16} (ro : entry.hasRo = true) (empty : req = [])
      (inUse : (s.readSlot idx).inUse = true) (ready : (s.readSlot idx).prepared ≠ [])
      (fresh : ageWithin arrival (s.readSlot idx).armedAt challengeTimeoutMs = true)
      (cyclic : (s.readSlot idx).cyclic = true) :
      Move gcm P client req arrival s idx entry [.time arrival, .time now'] (.ok (s.readSlot idx).prepared)
        (s.setRead idx { s.readSlot idx with prepared := [], armedAt := now' })
  /-- A read session timed out, or used up its key budget. -/
  | readLapsed {now : UInt16} {code : Abort} (ro : entry.hasRo = true) (len : req.length = 1)
      (inUse : (s.readSlot idx).inUse = true) (cyclic : (s.readSlot idx).cyclic = true)
      (owner : (s.readSlot idx).clientDev = client)
      (why : ageWithin now (s.readSlot idx).armedAt sessionIdleTimeoutMs = false ∨
        keyUseLimit ≤ (s.readSlot idx).counter) :
      Move gcm P client req arrival s idx entry [.time now] (.abort code)
        (s.setRead idx { s.readSlot idx with inUse := false })
  /-- A read poll could not be sealed. -/
  | readPollFailed {l : List Event} {now : UInt16} {key : Key} {plain : List UInt8}
      (checked : ReadPollChecked s idx entry client req now key plain) (passive : Passive l)
      (sealed : aeadSeal gcm (readPollCall P (s.readSlot idx) entry key) plain = none) :
      Move gcm P client req arrival s idx entry
        (l ++ [.aeadSeal (readPollCall P (s.readSlot idx) entry key) plain none])
        (.abort abortInternal) s
  /-- A read poll was answered. -/
  | readPolled {l : List Event} {now now' : UInt16} {key : Key} {plain cipher : List UInt8}
      {tag : Tag} (checked : ReadPollChecked s idx entry client req now key plain)
      (passive : Passive l) (clock : Event.time now ∈ l)
      (gate : Event.accessAllowed .read entry.dataId true ∈ l)
      (source : Event.readBefore entry.dataId abortNone plain ∈ l)
      (sealed : aeadSeal gcm (readPollCall P (s.readSlot idx) entry key) plain =
        some (cipher, tag)) :
      Move gcm P client req arrival s idx entry
        (l ++ [.aeadSeal (readPollCall P (s.readSlot idx) entry key) plain (some (cipher, tag)),
          .time now'])
        (.ok (UInt8.ofNat ((s.readSlot idx).counter + 1) :: cipher ++ toList tag))
        (s.setRead idx { s.readSlot idx with
          counter := (s.readSlot idx).counter + 1, armedAt := now' })
  /-- A write challenge armed the write slot. -/
  | writeArmed {pre mid : List Event} {wire : Option UInt8} {sr : Rand} {now : UInt16}
      (wo : entry.hasWo = true) (len : req.length ≤ 1)
      (idle : readAnswers arrival (s.readSlot idx) entry req = false)
      (kid : wire = if req.length = 1 then some (reqHead req) else none)
      (binding : ∀ kid, wire = some kid → keyidReserved kid = 0 ∧ keyidIsCyclic kid = true ∧
        entry.acceptsKey (keyidBase kid) = true)
      (passive : Passive pre) (passive' : Passive mid)
      (gate : Event.accessAllowed .write entry.dataId true ∈ pre)
      (guard : ArmGuard (s.writeSlot idx).inUse (s.writeSlot idx).cyclic
        (s.writeSlot idx).clientDev (s.writeSlot idx).armedAt client mid) :
      Move gcm P client req arrival s idx entry (pre ++ .random (some sr) :: (mid ++ [.time now]))
        (.ok (toList sr)) (s.setWrite idx (armedWriteSlot client wire sr now))
  /-- A data-bearing frame was turned down before the tag check. -/
  | pass2Dropped {log : List Event} {code : Abort} (wo : entry.hasWo = true)
      (inUse : (s.writeSlot idx).inUse = true) (len : 2 ≤ req.length)
      (idle : readAnswers arrival (s.readSlot idx) entry req = false)
      (notPoll : req.length = pollLen entry → (s.writeSlot idx).cyclic = false)
      (passive : Passive log) :
      Move gcm P client req arrival s idx entry log (.abort code)
        (s.setWrite idx { s.writeSlot idx with inUse := false })
  /-- The tag of a Pass-2 frame did not verify. -/
  | pass2Forged {now : UInt16} {key : Key} (checked : Pass2Checked P s idx entry req now key)
      (opened : aeadOpen gcm (pass2Call P (s.writeSlot idx) entry req key)
        (pass2Cipher entry req) (pass2Tag entry req) = none) :
      Move gcm P client req arrival s idx entry
        [.time now, .roleAllowed .write (keyidBase (reqHead req)) entry.dataId true,
          .aeadOpen (pass2Call P (s.writeSlot idx) entry req key)
            (pass2Cipher entry req) (pass2Tag entry req) none]
        (.abort abortTagVerify)
        (s.setWrite idx { s.writeSlot idx with inUse := false, keyId := reqHead req })
  /-- A Pass-2 frame verified and `write_after` refused it. -/
  | pass2Refused {now : UInt16} {key : Key} {plain : List UInt8} {rc : Abort}
      {keys : KeyStore} {host host' : H}
      (checked : Pass2Checked P s idx entry req now key)
      (opened : aeadOpen gcm (pass2Call P (s.writeSlot idx) entry req key)
        (pass2Cipher entry req) (pass2Tag entry req) = some plain)
      (hook : P.writeAfter entry.dataId plain (keyidBase (reqHead req)) s.keys host =
        (rc, keys, host'))
      (refusal : rc ≠ abortNone) :
      Move gcm P client req arrival s idx entry
        [.time now, .roleAllowed .write (keyidBase (reqHead req)) entry.dataId true,
          .aeadOpen (pass2Call P (s.writeSlot idx) entry req key)
            (pass2Cipher entry req) (pass2Tag entry req) (some plain),
          .writeAfter entry.dataId plain (keyidBase (reqHead req)) rc]
        (.abort rc)
        (Sod.setWrite { s with keys := keys, lastWriteKid := keyidBase (reqHead req) } idx
          { s.writeSlot idx with inUse := false, keyId := reqHead req })
  /-- A single-shot Pass-2 frame was applied. -/
  | pass2Once {now : UInt16} {key : Key} {plain : List UInt8}
      {keys : KeyStore} {host host' : H}
      (checked : Pass2Checked P s idx entry req now key)
      (opened : aeadOpen gcm (pass2Call P (s.writeSlot idx) entry req key)
        (pass2Cipher entry req) (pass2Tag entry req) = some plain)
      (hook : P.writeAfter entry.dataId plain (keyidBase (reqHead req)) s.keys host =
        (abortNone, keys, host'))
      (single : keyidIsCyclic (reqHead req) = false) :
      Move gcm P client req arrival s idx entry
        [.time now, .roleAllowed .write (keyidBase (reqHead req)) entry.dataId true,
          .aeadOpen (pass2Call P (s.writeSlot idx) entry req key)
            (pass2Cipher entry req) (pass2Tag entry req) (some plain),
          .writeAfter entry.dataId plain (keyidBase (reqHead req)) abortNone]
        (.ok [])
        (Sod.setWrite { s with keys := keys, lastWriteKid := keyidBase (reqHead req) } idx
          { s.writeSlot idx with inUse := false, keyId := reqHead req })
  /-- A Pass-2 frame was applied and opened a cyclic session. -/
  | pass2Cyclic {now now' : UInt16} {key : Key} {plain : List UInt8}
      {keys : KeyStore} {host host' : H}
      (checked : Pass2Checked P s idx entry req now key)
      (opened : aeadOpen gcm (pass2Call P (s.writeSlot idx) entry req key)
        (pass2Cipher entry req) (pass2Tag entry req) = some plain)
      (hook : P.writeAfter entry.dataId plain (keyidBase (reqHead req)) s.keys host =
        (abortNone, keys, host'))
      (cyclic : keyidIsCyclic (reqHead req) = true) :
      Move gcm P client req arrival s idx entry
        [.time now, .roleAllowed .write (keyidBase (reqHead req)) entry.dataId true,
          .aeadOpen (pass2Call P (s.writeSlot idx) entry req key)
            (pass2Cipher entry req) (pass2Tag entry req) (some plain),
          .writeAfter entry.dataId plain (keyidBase (reqHead req)) abortNone, .time now']
        (.ok [])
        (Sod.setWrite { s with keys := keys, lastWriteKid := keyidBase (reqHead req) } idx
          { s.writeSlot idx with
            cyclic := true
            keyId := reqHead req
            nonceBase := aeadXorNonce (reqRandom req) (s.writeSlot idx).serverRandom
            counter := 0
            armedAt := now' })
  /-- A write session timed out, or used up its key budget. -/
  | writeLapsed {now : UInt16} {code : Abort} (wo : entry.hasWo = true)
      (len : req.length = pollLen entry)
      (inUse : (s.writeSlot idx).inUse = true) (cyclic : (s.writeSlot idx).cyclic = true)
      (owner : (s.writeSlot idx).clientDev = client)
      (why : ageWithin now (s.writeSlot idx).armedAt sessionIdleTimeoutMs = false ∨
        keyUseLimit ≤ (s.writeSlot idx).counter) :
      Move gcm P client req arrival s idx entry [.time now] (.abort code)
        (s.setWrite idx { s.writeSlot idx with inUse := false })
  /-- The tag of a write poll did not verify. -/
  | writePollForged {now : UInt16} {key : Key}
      (checked : WritePollChecked s idx entry client req now key)
      (opened : aeadOpen gcm (writePollCall P (s.writeSlot idx) entry key)
        (writePollCipher entry req) (writePollTag entry req) = none) :
      Move gcm P client req arrival s idx entry
        [.time now, .roleAllowed .write (keyidBase (s.writeSlot idx).keyId) entry.dataId true,
          .aeadOpen (writePollCall P (s.writeSlot idx) entry key)
            (writePollCipher entry req) (writePollTag entry req) none]
        (.abort abortTagVerify) s
  /-- A write poll verified and `write_after` refused it. -/
  | writePollRefused {now : UInt16} {key : Key} {plain : List UInt8} {rc : Abort}
      {keys : KeyStore} {host host' : H}
      (checked : WritePollChecked s idx entry client req now key)
      (opened : aeadOpen gcm (writePollCall P (s.writeSlot idx) entry key)
        (writePollCipher entry req) (writePollTag entry req) = some plain)
      (hook : P.writeAfter entry.dataId plain s.lastWriteKid s.keys host = (rc, keys, host'))
      (refusal : rc ≠ abortNone) :
      Move gcm P client req arrival s idx entry
        [.time now, .roleAllowed .write (keyidBase (s.writeSlot idx).keyId) entry.dataId true,
          .aeadOpen (writePollCall P (s.writeSlot idx) entry key)
            (writePollCipher entry req) (writePollTag entry req) (some plain),
          .writeAfter entry.dataId plain s.lastWriteKid rc]
        (.abort rc) { s with keys := keys }
  /-- A write poll was applied. -/
  | writePolled {now now' : UInt16} {key : Key} {plain : List UInt8}
      {keys : KeyStore} {host host' : H}
      (checked : WritePollChecked s idx entry client req now key)
      (opened : aeadOpen gcm (writePollCall P (s.writeSlot idx) entry key)
        (writePollCipher entry req) (writePollTag entry req) = some plain)
      (hook : P.writeAfter entry.dataId plain s.lastWriteKid s.keys host =
        (abortNone, keys, host')) :
      Move gcm P client req arrival s idx entry
        [.time now, .roleAllowed .write (keyidBase (s.writeSlot idx).keyId) entry.dataId true,
          .aeadOpen (writePollCall P (s.writeSlot idx) entry key)
            (writePollCipher entry req) (writePollTag entry req) (some plain),
          .writeAfter entry.dataId plain s.lastWriteKid abortNone, .time now']
        (.ok [])
        (Sod.setWrite { s with keys := keys } idx { s.writeSlot idx with
          counter := (s.writeSlot idx).counter + 1, armedAt := now' })

/-! ## Every branch is a move -/

/-- The outcome of a handler run from `w` is a move. -/
def IsMove (gcm : Gcm) (P : Ports H) (client : UInt16) (req : List UInt8) (idx : Fin sodMaxEntries)
    (entry : SodEntry) (w : World H) (r : SodResult) (w' : World H) : Prop :=
  ∃ log, w'.log = w.log ++ log ∧
    Move gcm P client req (P.timeMs w.host).1 w.sod idx entry log r w'.sod

section Handlers

variable {client : UInt16} {req : List UInt8} {idx : Fin sodMaxEntries} {entry : SodEntry}
  {w : World H} {replyMax : Nat}

/-- Closing a branch that refuses with no effect. -/
theorem isMove_refused {log : List Event} {code : Abort} {host : H} (h : Quiet log) :
    IsMove gcm P client req idx entry w (.abort code) ⟨w.sod, host, w.log ++ log⟩ :=
  ⟨log, rfl, .refused h⟩

theorem pollCheckCounter_ok {current expected : Nat} {b : UInt8}
    (h : pollCheckCounter current b = .ok expected) :
    current < keyUseLimit ∧ UInt8.ofNat (current + 1) = b ∧ expected = current + 1 := by
  unfold pollCheckCounter at h
  split at h
  · cases h
  · split at h
    · cases h
    · rename_i hlim hb
      exact ⟨by omega, by simpa using hb, by cases h; rfl⟩

theorem pollCheckCounter_next {current : Nat} {b : UInt8} (hlim : current < keyUseLimit)
    (hb : UInt8.ofNat (current + 1) = b) : pollCheckCounter current b = .ok (current + 1) := by
  unfold pollCheckCounter
  rw [if_neg (by omega), if_neg (by simp [hb])]

theorem pollCheckCounter_budget {current : Nat} {b : UInt8}
    (h : pollCheckCounter current b = .error abortKeyBudget) : keyUseLimit ≤ current := by
  unfold pollCheckCounter at h
  split at h
  · assumption
  · split at h
    · exact absurd h (by decide)
    · cases h

/-- The arming guard, as the clock readings it makes. -/
theorem wp_slotHeldByOther (client : UInt16) {Q : Bool → World H → Prop} {inUse cyclic : Bool}
    {owner armedAt : UInt16}
    (htrue : ∀ log host, Passive log → Q true ⟨w.sod, host, w.log ++ log⟩)
    (hfalse : ∀ log host, Passive log → ArmGuard inUse cyclic owner armedAt client log →
      Q false ⟨w.sod, host, w.log ++ log⟩) :
    wp (slotHeldByOther P inUse cyclic owner armedAt client) Q w := by
  have hread : ∀ now host, Q (ageWithin now armedAt (heldTimeout cyclic))
      ⟨w.sod, host, w.log ++ [.time now]⟩ := by
    intro now host
    cases ha : ageWithin now armedAt (heldTimeout cyclic) with
    | true => exact htrue _ _ (by simp [EventPassive])
    | false => exact hfalse _ _ (by simp [EventPassive]) fun _ _ => ⟨now, by simp, ha⟩
  unfold slotHeldByOther
  rw [wp_ite]
  refine ⟨fun hfree => ?_, fun _ => ?_⟩
  · have hg : ArmGuard inUse cyclic owner armedAt client [] := by
      intro hu hne
      simp [hu, hne] at hfree
    simpa [wp_pure] using hfalse [] w.host passive_nil hg
  · cases cyclic with
    | true =>
        simp only [if_true, wp_sessionIsFresh]
        intro now host _
        exact hread now host
    | false =>
        simp only [Bool.false_eq_true, if_false, wp_slotIsFresh]
        intro now host _
        exact hread now host

theorem handleWritePoll_move (hwo : entry.hasWo = true) (hlen : req.length = pollLen entry) :
    wp (handleWritePoll gcm P idx entry client req) (IsMove gcm P client req idx entry w) w := by
  unfold handleWritePoll
  simp only [wp_bind, wp_getWriteSlot, wp_ite, wp_pure]
  refine ⟨fun _ => ⟨[], by simp, .refused quiet_nil⟩, fun hlive => ?_⟩
  simp only [Bool.or_eq_true, Bool.not_eq_true', not_or, Bool.not_eq_false] at hlive
  refine ⟨fun _ => ⟨[], by simp, .refused quiet_nil⟩, fun howner => ?_⟩
  simp only [bne_iff_ne, ne_eq, not_not] at howner
  simp only [wp_sessionIsFresh]
  intro now host _
  simp only [wp_ite, wp_bind, wp_setWriteSlot, wp_pure]
  refine ⟨fun hstale => ?_, fun hfresh => ⟨fun _ => ?_, fun _ => ?_⟩⟩
  · exact ⟨_, rfl, .writeLapsed hwo hlen hlive.1 hlive.2 howner (.inl (by simpa using hstale))⟩
  · exact isMove_refused (by simp [EventQuiet, EventPassive])
  cases hcounter : pollCheckCounter (w.sod.writeSlot idx).counter (req.getD 0 0) with
  | error code =>
      simp only [wp_ite, wp_bind, wp_setWriteSlot, wp_pure]
      refine ⟨fun hb => ?_, fun _ => isMove_refused (by simp [EventQuiet, EventPassive])⟩
      obtain rfl : code = abortKeyBudget := by simpa using hb
      exact ⟨_, rfl, .writeLapsed hwo hlen hlive.1 hlive.2 howner
        (.inr (pollCheckCounter_budget hcounter))⟩
  | ok expected =>
      obtain ⟨hlim, hbyte, rfl⟩ := pollCheckCounter_ok hcounter
      simp only [wp_bind, wp_portRoleAllowed, wp_ite, wp_pure, List.append_assoc, List.cons_append,
        List.nil_append]
      intro role host _
      refine ⟨fun _ => isMove_refused (by simp [EventQuiet, EventPassive]),
        fun hrole => ?_⟩
      obtain rfl : role = true := by simpa using hrole
      simp only [wp_getKey]
      cases hkey : w.sod.keys.getKey (keyidBase (w.sod.writeSlot idx).keyId) with
      | none => exact isMove_refused (by simp [EventQuiet, EventPassive])
      | some key =>
          have hchecked : WritePollChecked w.sod idx entry client req now key :=
            { wo := hwo, inUse := hlive.1, cyclic := hlive.2, owner := howner,
              fresh := by simpa using hfresh, len := hlen, counter := hbyte, budget := hlim,
              installed := hkey }
          simp only [wp_bind, wp_callOpen, List.append_assoc, List.cons_append, List.nil_append]
          intro out hopen
          cases out with
          | none => exact ⟨_, rfl, .writePollForged hchecked hopen⟩
          | some plain =>
              simp only [wp_bind, wp_portWriteAfter, wp_ite, wp_pure, wp_portTime,
                wp_setWriteSlot, List.append_assoc, List.cons_append, List.nil_append]
              intro rc keys host hook
              refine ⟨fun hrc => ?_, fun hrc now' host' _ => ?_⟩
              · exact ⟨_, rfl,
                  .writePollRefused hchecked hopen hook (by simpa using hrc)⟩
              · obtain rfl : rc = abortNone := by simpa using hrc
                exact ⟨_, rfl, .writePolled hchecked hopen hook⟩

theorem handleReadPoll_move (hro : entry.hasRo = true) (hlen : req.length = 1) :
    wp (handleReadPoll gcm P idx entry client req replyMax)
      (IsMove gcm P client req idx entry w) w := by
  unfold handleReadPoll
  simp only [wp_bind, wp_getReadSlot, wp_ite, wp_pure]
  refine ⟨fun _ => ⟨[], by simp, .refused quiet_nil⟩, fun hlive => ?_⟩
  simp only [Bool.or_eq_true, Bool.not_eq_true', not_or, Bool.not_eq_false] at hlive
  refine ⟨fun _ => ⟨[], by simp, .refused quiet_nil⟩, fun howner => ?_⟩
  simp only [bne_iff_ne, ne_eq, not_not] at howner
  simp only [wp_sessionIsFresh]
  intro now host _
  simp only [wp_ite, wp_bind, wp_setReadSlot, wp_pure]
  refine ⟨fun hstale => ?_, fun hfresh => ⟨fun _ => ?_, fun _ => ⟨fun _ => ?_, fun _ => ?_⟩⟩⟩
  · exact ⟨_, rfl, .readLapsed hro hlen hlive.1 hlive.2 howner (.inl (by simpa using hstale))⟩
  · exact isMove_refused (by simp [EventQuiet, EventPassive])
  · exact isMove_refused (by simp [EventQuiet, EventPassive])
  cases hcounter : pollCheckCounter (w.sod.readSlot idx).counter (req.getD 0 0) with
  | error code =>
      simp only [wp_ite, wp_bind, wp_setReadSlot, wp_pure]
      refine ⟨fun hb => ?_, fun _ => isMove_refused (by simp [EventQuiet, EventPassive])⟩
      obtain rfl : code = abortKeyBudget := by simpa using hb
      exact ⟨_, rfl, .readLapsed hro hlen hlive.1 hlive.2 howner
        (.inr (pollCheckCounter_budget hcounter))⟩
  | ok expected =>
      obtain ⟨hlim, hbyte, rfl⟩ := pollCheckCounter_ok hcounter
      simp only [wp_bind, wp_portAccessAllowed, wp_portRoleAllowed, wp_ite, wp_pure,
        List.append_assoc, List.cons_append, List.nil_append]
      intro access host _
      refine ⟨fun _ => isMove_refused (by simp [EventQuiet, EventPassive]), fun haccess => ?_⟩
      obtain rfl : access = true := by simpa using haccess
      intro role host _
      refine ⟨fun _ => isMove_refused (by simp [EventQuiet, EventPassive]), fun _ => ?_⟩
      simp only [wp_portReadBefore, List.append_assoc, List.cons_append, List.nil_append]
      intro rc plain host _
      simp only [wp_ite, wp_pure, wp_bind]
      refine ⟨fun _ => isMove_refused (by simp [EventQuiet, EventPassive]), fun hrc => ?_⟩
      obtain rfl : rc = abortNone := by simpa using hrc
      refine ⟨fun _ => isMove_refused (by simp [EventQuiet, EventPassive]), fun hfull => ?_⟩
      simp only [bne_iff_ne, ne_eq, not_not] at hfull
      simp only [wp_getKey]
      cases hkey : w.sod.keys.getKey (keyidBase (w.sod.readSlot idx).keyId) with
      | none => exact isMove_refused (by simp [EventQuiet, EventPassive])
      | some key =>
          have hchecked : ReadPollChecked w.sod idx entry client req now key plain :=
            { ro := hro, inUse := hlive.1, cyclic := hlive.2, owner := howner,
              fresh := by simpa using hfresh, len := hlen, counter := hbyte, budget := hlim,
              full := hfull, installed := hkey }
          simp only [wp_bind, wp_callSeal, List.append_assoc, List.cons_append, List.nil_append]
          intro out hseal
          cases out with
          | none =>
              refine ⟨_, rfl, Move.readPollFailed (l := [_, _, _, _]) hchecked ?_ hseal⟩
              simp [EventPassive]
          | some sealed =>
              obtain ⟨cipher, tag⟩ := sealed
              simp only [wp_bind, wp_portTime, wp_setReadSlot, wp_pure, List.append_assoc,
                List.cons_append, List.nil_append]
              intro now' host _
              refine ⟨_, rfl, Move.readPolled (l := [_, _, _, _]) hchecked ?_ ?_ ?_ ?_ hseal⟩
              all_goals simp [EventPassive]

theorem armReadResponse_move (hro : entry.hasRo = true) (hlen : req.length = readChallengeLen) :
    wp (armReadResponse gcm P idx entry client req) (IsMove gcm P client req idx entry w) w := by
  unfold armReadResponse
  simp only [wp_bind, wp_ite, wp_pure]
  refine ⟨fun _ => ⟨[], by simp, .refused quiet_nil⟩, fun hres => ?_⟩
  simp only [bne_iff_ne, ne_eq, not_not] at hres
  refine ⟨fun _ => ⟨[], by simp, .refused quiet_nil⟩, fun hbind => ?_⟩
  simp only [Bool.not_eq_true', Bool.not_eq_false] at hbind
  simp only [wp_getKey]
  cases hkey : w.sod.keys.getKey (keyidBase (req.getD 0 0)) with
  | none => exact ⟨[], (List.append_nil _).symm, .refused quiet_nil⟩
  | some key =>
      simp only [wp_bind, wp_portAccessAllowed, wp_portRoleAllowed, wp_ite, wp_pure,
        List.append_assoc, List.cons_append, List.nil_append, wp_getReadSlot]
      intro access host _
      refine ⟨fun _ => isMove_refused (by simp [EventQuiet, EventPassive]), fun haccess => ?_⟩
      obtain rfl : access = true := by simpa using haccess
      intro role host _
      refine ⟨fun _ => isMove_refused (by simp [EventQuiet, EventPassive]), fun _ => ?_⟩
      refine wp_slotHeldByOther client ?_ ?_
      · intro log host hlog
        simp only [if_true, wp_pure, List.append_assoc, List.cons_append, List.nil_append]
        exact isMove_refused (by simp [EventQuiet, EventPassive, hlog.quiet])
      intro held host hheld hguard
      simp only [Bool.false_eq_true, if_false, wp_bind, wp_portReadBefore, List.append_assoc,
        List.cons_append, List.nil_append]
      intro rc plain host _
      simp only [wp_ite, wp_pure, wp_bind, wp_portRandom, List.append_assoc, List.cons_append,
        List.nil_append]
      refine ⟨fun _ => isMove_refused (by simp [EventQuiet, EventPassive, hheld.quiet]),
        fun hrc => ?_⟩
      obtain rfl : rc = abortNone := by simpa using hrc
      refine ⟨fun _ => isMove_refused (by simp [EventQuiet, EventPassive, hheld.quiet]),
        fun hfull => ?_⟩
      simp only [bne_iff_ne, ne_eq, not_not] at hfull
      intro random host _
      cases random with
      | none => exact isMove_refused (by simp [EventQuiet, EventPassive, hheld.quiet])
      | some sr =>
          have hchecked : ReadArmChecked w.sod idx entry client req key plain
              (.accessAllowed .read entry.dataId true ::
                .roleAllowed .read (keyidBase (req.getD 0 0)) entry.dataId role ::
                  (held ++ [.readBefore entry.dataId abortNone plain])) :=
            { ro := hro, len := hlen, reserved := hres, binding := hbind, installed := hkey,
              full := hfull, passive := by simp [EventPassive, hheld], gate := by simp,
              source := by simp
              guard := by
                intro hu hne
                obtain ⟨now, hmem, hstale⟩ := hguard hu hne
                exact ⟨now, by simp [hmem], hstale⟩ }
          simp only [wp_bind, wp_setReadSlot, wp_callSeal]
          intro out hseal
          cases out with
          | none =>
              refine ⟨_, ?_, Move.readArmFailed hchecked hseal⟩
              simp only [List.append_assoc, List.cons_append, List.nil_append]
              rfl
          | some sealed =>
              obtain ⟨cipher, tag⟩ := sealed
              simp only [wp_bind, wp_portTime, wp_setReadSlot, wp_pure]
              intro now host _
              rw [Sod.setRead_setRead]
              refine ⟨_, ?_, Move.readArmed hchecked hseal⟩
              simp only [List.append_assoc, List.cons_append, List.nil_append]
              rfl

/-- The draw and the guard, once the gate is open and the key id byte accepted. -/
theorem grantWrite_move {wire : Option UInt8} (hwo : entry.hasWo = true)
    (hlen : req.length ≤ 1)
    (hidle : readAnswers (P.timeMs w.host).1 (w.sod.readSlot idx) entry req = false)
    (hkid : wire = if req.length = 1 then some (reqHead req) else none)
    {pre : List Event} {host : H} (hpre : Passive pre)
    (hgate : Event.accessAllowed .write entry.dataId true ∈ pre)
    (hbind : ∀ kid, wire = some kid → keyidReserved kid = 0 ∧ keyidIsCyclic kid = true ∧
      entry.acceptsKey (keyidBase kid) = true) :
    wp (grantWrite P idx client wire replyMax)
      (IsMove gcm P client req idx entry w) ⟨w.sod, host, w.log ++ pre⟩ := by
  unfold grantWrite
  simp only [wp_bind, wp_ite, wp_pure, wp_portRandom, List.append_assoc]
  refine ⟨fun _ => isMove_refused hpre.quiet, fun _ => ?_⟩
  intro random host _
  cases random with
  | none => exact isMove_refused (by simp [EventQuiet, hpre.quiet])
  | some sr =>
      simp only [wp_bind, wp_getWriteSlot]
      refine wp_slotHeldByOther client ?_ ?_
      · intro log host hlog
        simp only [if_true, wp_pure, List.append_assoc]
        exact isMove_refused (by simp [EventQuiet, hpre.quiet, hlog.quiet])
      intro mid host hmid hguard
      simp only [Bool.false_eq_true, if_false, wp_bind, wp_portTime, wp_setWriteSlot, wp_pure,
        List.append_assoc]
      intro now host _
      exact ⟨_, rfl, .writeArmed hwo hlen hidle hkid hbind hpre hmid hgate hguard⟩

/-- Write Pass 1, entered directly or after the read branch looked at the clock. -/
theorem armWriteChallenge_move {wire : Option UInt8} (hwo : entry.hasWo = true)
    (hlen : req.length ≤ 1)
    (hidle : readAnswers (P.timeMs w.host).1 (w.sod.readSlot idx) entry req = false)
    (hkid : wire = if req.length = 1 then some (reqHead req) else none)
    {held : List Event} {host : H} (hheld : Passive held) :
    wp (armWriteChallenge P idx entry client wire replyMax)
      (IsMove gcm P client req idx entry w) ⟨w.sod, host, w.log ++ held⟩ := by
  unfold armWriteChallenge
  simp only [wp_bind, wp_portAccessAllowed, wp_ite, wp_pure, List.append_assoc]
  intro access host _
  refine ⟨fun _ => isMove_refused (by simp [EventQuiet, EventPassive, hheld.quiet]),
    fun haccess => ?_⟩
  obtain rfl : access = true := by simpa using haccess
  cases hwire : wire with
  | none =>
      subst hwire
      exact grantWrite_move hwo hlen hidle hkid (by simp [EventPassive, hheld]) (by simp) (by simp)
  | some kid =>
      subst hwire
      simp only [wp_bind, wp_ite, wp_pure, wp_getKey]
      refine ⟨fun _ => isMove_refused (by simp [EventQuiet, EventPassive, hheld.quiet]),
        fun hres => ?_⟩
      simp only [bne_iff_ne, ne_eq, not_not] at hres
      refine ⟨fun _ => isMove_refused (by simp [EventQuiet, EventPassive, hheld.quiet]),
        fun hcyc => ?_⟩
      simp only [Bool.not_eq_true', Bool.not_eq_false] at hcyc
      refine ⟨fun _ => isMove_refused (by simp [EventQuiet, EventPassive, hheld.quiet]),
        fun hacc => ?_⟩
      simp only [Bool.not_eq_true', Bool.not_eq_false] at hacc
      refine ⟨fun _ => isMove_refused (by simp [EventQuiet, EventPassive, hheld.quiet]),
        fun _ => ?_⟩
      simp only [wp_portRoleAllowed, List.append_assoc]
      intro role host _
      rw [wp_ite, wp_pure]
      refine ⟨fun _ => isMove_refused (by simp [EventQuiet, EventPassive, hheld.quiet]),
        fun _ => ?_⟩
      refine grantWrite_move hwo hlen hidle hkid (by simp [EventPassive, hheld]) (by simp) ?_
      rintro kid' ⟨⟩
      exact ⟨hres, hcyc, hacc⟩

theorem verifyAndApplyWrite_move (hwo : entry.hasWo = true) (hlen : 2 ≤ req.length)
    (hidle : readAnswers (P.timeMs w.host).1 (w.sod.readSlot idx) entry req = false)
    (hpoll : req.length = pollLen entry → (w.sod.writeSlot idx).inUse = true →
      (w.sod.writeSlot idx).cyclic = false) :
    wp (verifyAndApplyWrite gcm P idx entry req) (IsMove gcm P client req idx entry w) w := by
  unfold verifyAndApplyWrite
  simp only [wp_bind, wp_getWriteSlot, wp_ite, wp_pure]
  refine ⟨fun _ => ⟨[], by simp, .refused quiet_nil⟩, fun huse => ?_⟩
  simp only [Bool.not_eq_true', Bool.not_eq_false] at huse
  have hdrop : ∀ log host code, Passive log →
      IsMove gcm P client req idx entry w (.abort code)
        ⟨w.sod.setWrite idx { w.sod.writeSlot idx with inUse := false }, host, w.log ++ log⟩ :=
    fun log host code hp => ⟨log, rfl, .pass2Dropped hwo huse hlen hidle (fun h => hpoll h huse) hp⟩
  simp only [wp_slotIsFresh]
  intro now host _
  simp only [wp_ite, wp_bind, wp_setWriteSlot, wp_pure]
  refine ⟨fun _ => hdrop _ _ _ (by simp [EventPassive]), fun hfresh => ?_⟩
  refine ⟨fun _ => hdrop _ _ _ (by simp [EventPassive]), fun hfull => ?_⟩
  simp only [bne_iff_ne, ne_eq, not_not] at hfull
  refine ⟨fun _ => hdrop _ _ _ (by simp [EventPassive]), fun hres => ?_⟩
  simp only [bne_iff_ne, ne_eq, not_not] at hres
  refine ⟨fun _ => hdrop _ _ _ (by simp [EventPassive]), fun hbind => ?_⟩
  simp only [Bool.not_eq_true', Bool.not_eq_false] at hbind
  simp only [wp_getKey]
  cases hkey : w.sod.keys.getKey (keyidBase (req.getD 0 0)) with
  | none => exact hdrop _ _ _ (by simp [EventPassive])
  | some key =>
      have hchecked : Pass2Checked P w.sod idx entry req now key :=
        { wo := hwo, inUse := huse, fresh := by simpa using hfresh, len := hfull,
          reserved := hres, binding := hbind, installed := hkey }
      simp only [wp_bind, wp_portRoleAllowed, wp_ite, wp_setWriteSlot, wp_pure, List.append_assoc,
        List.cons_append, List.nil_append]
      intro role host _
      refine ⟨fun _ => hdrop _ _ _ (by simp [EventPassive]), fun hrole => ?_⟩
      obtain rfl : role = true := by simpa using hrole
      simp only [wp_callOpen, List.append_assoc, List.cons_append, List.nil_append]
      intro out hopen
      cases out with
      | none => exact ⟨_, rfl, .pass2Forged hchecked hopen⟩
      | some plain =>
          simp only [wp_bind, wp_setLastWriteKid, wp_portWriteAfter, wp_ite, wp_setWriteSlot,
            wp_pure, wp_portTime, List.append_assoc, List.cons_append, List.nil_append]
          intro rc keys host hook
          refine ⟨fun hrc => ?_, fun hrc => ⟨fun hcyc now' host' _ => ?_, fun hsingle => ?_⟩⟩
          · exact ⟨_, rfl, .pass2Refused hchecked hopen hook (by simpa using hrc)⟩
          · obtain rfl : rc = abortNone := by simpa using hrc
            exact ⟨_, rfl, .pass2Cyclic hchecked hopen hook hcyc⟩
          · obtain rfl : rc = abortNone := by simpa using hrc
            exact ⟨_, rfl, .pass2Once hchecked hopen hook (Bool.eq_false_iff.mpr hsingle)⟩

/-- Read Pass 2: a move, or nothing but a clock reading before the write branch. -/
theorem fetchReadResponse_move (client : UInt16) {Q : Option SodResult → World H → Prop}
    (hro : entry.hasRo = true) (hreq : req = [])
    (hsome : ∀ r w', IsMove gcm P client req idx entry w r w' → Q (some r) w')
    (hnone : ∀ log host, Passive log →
      readAnswers (P.timeMs w.host).1 (w.sod.readSlot idx) entry req = false →
      Q none ⟨w.sod, host, w.log ++ log⟩) :
    wp (fetchReadResponse P idx entry replyMax) Q w := by
  have hmiss : ∀ log host, Passive log →
      readAnswers (P.timeMs w.host).1 (w.sod.readSlot idx) entry req = false →
      wp (do
          if !entry.hasWo then
            return some (.abort abortNoSession)
          return none) Q (⟨w.sod, host, w.log ++ log⟩ : World H) := by
    intro log host hlog hidle
    simp only [wp_ite, wp_pure]
    exact ⟨fun _ => hsome _ _ (isMove_refused hlog.quiet), fun _ => hnone _ _ hlog hidle⟩
  unfold fetchReadResponse
  simp only [wp_bind, wp_getReadSlot]
  rw [wp_ite]
  refine ⟨fun harmed => ?_, fun hfree => ?_⟩
  · simp only [Bool.and_eq_true, decide_eq_true_eq] at harmed
    have hready : (w.sod.readSlot idx).prepared ≠ [] := List.length_pos_iff.mp harmed.2
    simp only [wp_bind, wp_slotIsFresh]
    intro now host hclock
    obtain rfl : (P.timeMs w.host).1 = now := congrArg (·.1) hclock
    rw [wp_ite]
    refine ⟨fun hfresh => ?_, fun hstale => hmiss _ _ (by simp [EventPassive])
      (by simp [readAnswers, hreq, Bool.eq_false_iff.mpr hstale])⟩
    simp only [wp_ite, wp_bind, wp_setReadSlot, wp_pure, wp_portTime, List.append_assoc,
      List.cons_append, List.nil_append]
    refine ⟨fun _ => ?_, fun _ => ⟨fun hcyc now' host' _ => ?_, fun hsingle => ?_⟩⟩
    · exact hsome _ _ ⟨_, rfl, .fetchDropped hro hreq harmed.1 hready hfresh⟩
    · exact hsome _ _ ⟨_, rfl, .fetchedCyclic hro hreq harmed.1 hready hfresh hcyc⟩
    · exact hsome _ _ ⟨_, rfl, .fetchedOnce hro hreq harmed.1 hready hfresh
        (Bool.eq_false_iff.mpr hsingle)⟩
  · rw [if_neg hfree]
    have hidle : readAnswers (P.timeMs w.host).1 (w.sod.readSlot idx) entry req = false := by
      have hfree' := Bool.eq_false_iff.mpr hfree
      simp [readAnswers, hreq, hfree']
    simpa using hmiss [] w.host passive_nil hidle

theorem dispatchWrite_move (hpoll : entry.hasWo = true → req.length = pollLen entry →
      (w.sod.writeSlot idx).inUse = true → (w.sod.writeSlot idx).cyclic = false)
    (hidle : readAnswers (P.timeMs w.host).1 (w.sod.readSlot idx) entry req = false)
    {held : List Event} {host : H} (hheld : Passive held)
    (hclean : req ≠ [] → held = [] ∧ host = w.host) :
    wp (dispatchWrite gcm P idx entry client req replyMax) (IsMove gcm P client req idx entry w)
      ⟨w.sod, host, w.log ++ held⟩ := by
  unfold dispatchWrite
  rw [wp_ite]
  refine ⟨fun hwo => ?_, fun _ => isMove_refused hheld.quiet⟩
  simp only [wp_ite]
  refine ⟨fun hzero => ?_, fun hpos => ⟨fun hone => ?_, fun hmore => ?_⟩⟩
  · simp only [beq_iff_eq] at hzero
    exact armWriteChallenge_move hwo (by omega) hidle (by simp [hzero]) hheld
  · simp only [beq_iff_eq] at hone
    exact armWriteChallenge_move hwo (by omega) hidle (by simp [hone, reqHead]) hheld
  · simp only [beq_iff_eq] at hpos hmore
    obtain ⟨rfl, rfl⟩ := hclean (by rintro rfl; exact hpos rfl)
    rw [List.append_nil]
    exact verifyAndApplyWrite_move hwo (by omega) hidle (hpoll hwo)

theorem dispatchRead_move (hpoll : entry.hasWo = true → req.length = pollLen entry →
      (w.sod.writeSlot idx).inUse = true → (w.sod.writeSlot idx).cyclic = false)
    (hread : entry.hasRo = true → req.length = 1 →
      (w.sod.readSlot idx).inUse = true → (w.sod.readSlot idx).cyclic = false) :
    wp (dispatchRead gcm P idx entry client req replyMax) (IsMove gcm P client req idx entry w)
      w := by
  have hwrite : readAnswers (P.timeMs w.host).1 (w.sod.readSlot idx) entry req = false →
      wp (dispatchWrite gcm P idx entry client req replyMax)
        (IsMove gcm P client req idx entry w) w := by
    intro hidle
    have h : wp (dispatchWrite gcm P idx entry client req replyMax)
        (IsMove gcm P client req idx entry w) ⟨w.sod, w.host, w.log ++ []⟩ :=
      dispatchWrite_move hpoll hidle passive_nil (fun _ => ⟨rfl, rfl⟩)
    rwa [List.append_nil] at h
  unfold dispatchRead
  rw [wp_ite]
  refine ⟨fun hro => ?_, fun hro => hwrite (by simp [readAnswers, Bool.eq_false_iff.mpr hro])⟩
  rw [wp_ite]
  refine ⟨fun hlen => armReadResponse_move hro (by simpa using hlen), fun hlen => ?_⟩
  rw [wp_ite]
  refine ⟨fun hzero => ?_, fun hzero => ?_⟩
  · obtain rfl : req = [] := by simpa using hzero
    rw [wp_bind]
    apply fetchReadResponse_move client hro rfl
    · intro r w' hmove
      exact hmove
    · intro log host hlog hidle
      exact dispatchWrite_move hpoll hidle hlog (by simp)
  · rw [wp_ite]
    refine ⟨fun _ => ⟨[], (List.append_nil _).symm, .refused quiet_nil⟩, fun _ => hwrite ?_⟩
    simp only [beq_iff_eq] at hlen hzero
    have hone := hread hro
    cases huse : (w.sod.readSlot idx).inUse <;> cases hcyc : (w.sod.readSlot idx).cyclic <;>
      simp_all [readAnswers]

end Handlers

/-- The branches of a dispatch on a registered data id. -/
theorem wp_sodDispatch {Q : SodResult → World H → Prop} {client : UInt16} {dataId : UInt32}
    {req : List UInt8} {replyMax : Nat} {w : World H} {idx : Fin sodMaxEntries}
    {entry : SodEntry} (hfind : w.sod.registry.find dataId = some (idx, entry)) :
    wp (sodDispatch gcm P client dataId req replyMax) Q w ↔
      wp (if entry.hasRo && req.length == 1 && (w.sod.readSlot idx).inUse
            && (w.sod.readSlot idx).cyclic then
          handleReadPoll gcm P idx entry client req replyMax
        else if entry.hasWo && req.length == pollLen entry && (w.sod.writeSlot idx).inUse
            && (w.sod.writeSlot idx).cyclic then
          handleWritePoll gcm P idx entry client req
        else dispatchRead gcm P idx entry client req replyMax) Q w := by
  simp only [wp, sodDispatch, hfind]
  split
  · rfl
  · split <;> rfl

/-- **Completeness of the moves.**  A dispatch on a registered data id is one of
    the listed moves. -/
theorem sodDispatch_move {client : UInt16} {dataId : UInt32} {req : List UInt8} {replyMax : Nat}
    {w : World H} {idx : Fin sodMaxEntries} {entry : SodEntry}
    (hfind : w.sod.registry.find dataId = some (idx, entry)) :
    wp (sodDispatch gcm P client dataId req replyMax) (IsMove gcm P client req idx entry w) w := by
  rw [wp_sodDispatch hfind, wp_ite, wp_ite]
  refine ⟨fun hread => ?_, fun hread => ⟨fun hpoll => ?_, fun hpoll => ?_⟩⟩
  · simp only [Bool.and_eq_true, beq_iff_eq] at hread
    exact handleReadPoll_move hread.1.1.1 hread.1.1.2
  · simp only [Bool.and_eq_true, beq_iff_eq] at hpoll
    exact handleWritePoll_move hpoll.1.1.1 hpoll.1.1.2
  · refine dispatchRead_move (fun hwo hlen huse => ?_) (fun hro hlen huse => ?_)
    · simpa [hwo, hlen, huse] using hpoll
    · simpa [hro, hlen, huse] using hread

/-- A dispatch on a data id that is not registered does nothing. -/
theorem sodDispatch_notHandled {client : UInt16} {dataId : UInt32} {req : List UInt8}
    {replyMax : Nat} {w : World H} (hfind : w.sod.registry.find dataId = none) :
    sodDispatch gcm P client dataId req replyMax w = (.notHandled, w) := by
  simp only [sodDispatch, hfind]

end SofaMoves
