import Sofa.Oblivious
import Sofa.Calls
import Sofa.Slots
import Sofa.Reads
import Sofa.Writes

/-! # One mechanism per entry

    The hooks behind the secure object dictionary are also the hooks behind the signed
    access C042h, which offers them any target id.  An entry keeps to one mechanism when its
    value leaves the device only sealed, changes only by a frame that verified or a read of
    its own, and is out of reach of signed accesses.

    The headline, **`one_mechanism_iff`**: this is so in exactly those runs in which no
    signed access that gets as far as its hook names a registered entry.  `signed_bypass` is
    a signed read of 2020h: the value goes out in the clear, and moves on. -/

namespace SofaMechanisms

open ByteBlock SofaConfig SofaAead SofaOd SofaMoves SofaServer SofaDemo SofaAsym SofaDevice SofaTurn
  SofaNode SofaOblivious SofaCalls SofaReads SofaWrites SofaSlots StateWp Machine

variable {E : Type} {gcm : Gcm} {ed : Ed25519} {plat : DevicePlatform E} {deviceId : UInt16}

/-! ## The values under the hook calls of the secure OD -/

/-- What a call does to the values. -/
def hookEffect (v : Values) : Event → Values
  | .readBefore d _ _ => if d = rdDataId then { v with value := bump v.value } else v
  | .writeAfter d src _ _ =>
      if d = swrDataId ∧ src.length = entrySecureLen then { v with secureWo := slice 16 0 src }
      else if d = wrDataId ∧ src.length = entryValueLen then { v with value := slice 4 0 src }
      else v
  | _ => v

theorem hookEffect_read (v : Values) (d : UInt32) (rc : Abort) (bytes : List UInt8) :
    hookEffect v (.readBefore d rc bytes)
      = if d = rdDataId then { v with value := bump v.value } else v := rfl

theorem hookEffect_write (v : Values) (d : UInt32) (src : List UInt8) (kid : UInt8)
    (rc : Abort) : hookEffect v (.writeAfter d src kid rc)
      = if d = swrDataId ∧ src.length = entrySecureLen then { v with secureWo := slice 16 0 src }
        else if d = wrDataId ∧ src.length = entryValueLen then { v with value := slice 4 0 src }
        else v := rfl

/-- An entry hook is called for `d` only. -/
def ForEntry (d : UInt32) : Event → Prop
  | .readBefore target _ _ | .writeAfter target _ _ _ => target = d
  | _ => True

/-- The values so far are what the calls so far made of them, and the calls were for `d`. -/
structure Tracked (d : UInt32) (v : Values) (w : World (DemoHost E)) : Prop where
  values : valuesOf w.host = w.log.foldl hookEffect v
  own : ∀ e ∈ w.log, ForEntry d e

section Tracked

variable {d : UInt32} {v : Values}

theorem Tracked.call {w w' : World (DemoHost E)} {e : Event} (h : Tracked d v w)
    (hlog : w'.log = w.log ++ [e]) (hown : ForEntry d e)
    (hvalues : valuesOf w'.host = hookEffect (valuesOf w.host) e) : Tracked d v w' := by
  refine ⟨?_, ?_⟩
  · rw [hvalues, h.values, hlog, List.foldl_append]
    rfl
  · rw [hlog]
    intro f hf
    rcases List.mem_append.mp hf with hf | hf
    · exact h.own f hf
    · rw [List.mem_singleton.mp hf]
      exact hown

theorem demoReadBefore_values (d : UInt32) (h : DemoHost E) (rc : Abort) (bytes : List UInt8) :
    valuesOf (demoReadBefore d h).2 = hookEffect (valuesOf h) (.readBefore d rc bytes) := by
  rw [hookEffect_read]
  unfold demoReadBefore
  by_cases hs : d = srdDataId
  · subst hs
    rfl
  · rw [if_neg hs]
    by_cases hr : d = rdDataId
    · rw [if_pos hr, if_pos hr]
      rfl
    · rw [if_neg hr, if_neg hr]
      split <;> rfl

theorem demoWriteAfter_values (d : UInt32) (src : List UInt8) (kid : UInt8) (keys : KeyStore)
    (h : DemoHost E) (rc : Abort) : valuesOf (demoWriteAfter d src kid keys h).2.2
      = hookEffect (valuesOf h) (.writeAfter d src kid rc) := by
  rw [hookEffect_write]
  unfold demoWriteAfter
  by_cases hs : d = swrDataId
  · subst hs
    by_cases hlen : src.length = entrySecureLen
    · rw [if_pos rfl, if_neg (not_not.mpr hlen), if_pos ⟨rfl, hlen⟩]
      rfl
    · rw [if_pos rfl, if_pos hlen, if_neg fun h => hlen h.2,
        if_neg fun h => absurd h.1 (by decide)]
  · have hswr : ¬ (d = swrDataId ∧ src.length = entrySecureLen) := fun h => hs h.1
    rw [if_neg hs, if_neg hswr]
    by_cases hw : d = wrDataId
    · subst hw
      by_cases hlen : src.length = entryValueLen
      · rw [if_pos rfl, if_neg (not_not.mpr hlen), if_pos ⟨rfl, hlen⟩]
        rfl
      · rw [if_pos rfl, if_pos hlen, if_neg fun h => hlen h.2]
    · have hwr : ¬ (d = wrDataId ∧ src.length = entryValueLen) := fun h => hw h.1
      rw [if_neg hw, if_neg hwr]
      by_cases hk : d = keySetDataId
      · rw [if_pos hk]
        rfl
      · rw [if_neg hk]
        split
        · split <;> rfl
        · rfl

/-- **Every call keeps track.** -/
theorem tracked_stable (plat : Platform E) :
    Stable gcm (demoPorts deviceId plat) d fun _ => Tracked d v where
  time _ _ h := h.call rfl trivial rfl
  random _ _ h := h.call rfl trivial rfl
  access _ _ _ _ h := h.call rfl trivial rfl
  role _ _ _ _ _ h := h.call rfl trivial rfl
  callSeal _ _ _ _ h := h.call rfl trivial rfl
  callOpen _ _ _ _ _ h := h.call rfl trivial rfl
  state _ _ _ h := ⟨h.values, h.own⟩
  gate _ h _ := h.call rfl trivial rfl
  close _ h := h
  source w h := h.call rfl rfl (demoReadBefore_values d w.host _ _)

/-- The values after a dispatch. -/
theorem dispatch_values (plat : Platform E) (s : Sod) (host : DemoHost E) (client : UInt16)
    (req : List UInt8) (replyMax : Nat) :
    wp (sodDispatch gcm (demoPorts deviceId plat) client d req replyMax)
      (fun _ w => Tracked d (valuesOf host) w) ⟨s, host, []⟩ := by
  have hsink : ∀ src, Keeps (Tracked d (valuesOf host))
      (portWriteAfter (demoPorts deviceId plat) d src) := fun src w h =>
    h.call rfl rfl (demoWriteAfter_values d src _ _ w.host _)
  have hstable : Stable gcm (demoPorts deviceId plat) d fun _ => Tracked d (valuesOf host) :=
    tracked_stable plat
  exact hstable.sodDispatch hsink _ ⟨rfl, by simp⟩

end Tracked

/-! ## The seal behind a frame -/

/-- A logged seal is among the sealings. -/
theorem mem_sealings {calls : List Event} {call : AeadCall} {plain : List UInt8}
    {out : Option (List UInt8 × Tag)} (h : .aeadSeal call plain out ∈ calls) :
    ⟨call, plain, out⟩ ∈ sealings calls := List.mem_filterMap.mpr ⟨_, h, rfl⟩

/-- The frame was sealed in the exchange: a read response behind the random it drew, or an
    answered poll behind its counter. -/
inductive SealedIn (y : Exchange) : List UInt8 → Prop where
  | response {call : AeadCall} {plain cipher : List UInt8} {tag : Tag} {sr : Rand}
      (sealing : ⟨call, plain, some (cipher, tag)⟩ ∈ sealings y.calls)
      (drawn : .random (some sr) ∈ y.calls) : SealedIn y (toList sr ++ cipher ++ toList tag)
  | poll {call : AeadCall} {plain cipher : List UInt8} {tag : Tag} {counter : UInt8}
      (sealing : ⟨call, plain, some (cipher, tag)⟩ ∈ sealings y.calls) :
      SealedIn y (counter :: cipher ++ toList tag)

/-- A prepared reply was sealed in an earlier exchange of its entry. -/
def PreparedSealed (history : List Exchange) (d : UInt32) (slot : ReadSlot) : Prop :=
  slot.prepared ≠ [] → ∃ y ∈ history, y.dataId = d ∧ SealedIn y slot.prepared

theorem PreparedSealed.later {history : List Exchange} {d : UInt32} {slot : ReadSlot}
    (h : PreparedSealed history d slot) (x : Exchange) :
    PreparedSealed (history ++ [x]) d slot := by
  intro hready
  obtain ⟨y, hy, hd, hsealed⟩ := h hready
  exact ⟨y, List.mem_append_left _ hy, hd, hsealed⟩

section Seals

variable {H : Type} {P : Ports H} {client arrival : UInt16} {d : UInt32} {req : List UInt8}
  {s s' : Sod} {idx : Fin sodMaxEntries} {entry : SodEntry} {log : List Event} {r : SodResult}

/-- One move on the entry. -/
theorem preparedSealed_move {history : List Exchange}
    (h : Move gcm P client req arrival s idx entry log r s')
    (huse : (s'.readSlot idx).inUse = true)
    (hbefore : (s.readSlot idx).inUse = true → PreparedSealed history d (s.readSlot idx)) :
    PreparedSealed (history ++ [⟨client, d, req, r, log⟩]) d (s'.readSlot idx) := by
  -- an untouched slot keeps the seal it had
  have hkept : s'.readSlot idx = s.readSlot idx →
      PreparedSealed (history ++ [⟨client, d, req, r, log⟩]) d (s'.readSlot idx) := by
    intro hsame
    rw [hsame] at huse ⊢
    exact (hbefore huse).later _
  cases h with
  | readArmFailed checked sealed =>
      rw [Sod.readSlot_setRead] at huse
      cases huse
  | readArmed checked sealed =>
      rw [Sod.readSlot_setRead]
      refine fun _ => ⟨_, List.mem_append_right _ (List.mem_singleton_self _), rfl, ?_⟩
      exact .response (mem_sealings (List.mem_append_right _ (List.mem_cons_of_mem _
        List.mem_cons_self))) (List.mem_append_right _ List.mem_cons_self)
  | fetchDropped ro empty inUse ready fresh =>
      rw [Sod.readSlot_setRead] at huse
      cases huse
  | fetchedOnce ro empty inUse ready fresh single =>
      rw [Sod.readSlot_setRead] at huse
      cases huse
  | fetchedCyclic ro empty inUse ready fresh cyclic =>
      rw [Sod.readSlot_setRead]
      exact fun hready => absurd rfl hready
  | readLapsed ro len inUse cyclic owner why =>
      rw [Sod.readSlot_setRead] at huse
      cases huse
  | readPolled checked passive clock gate source sealed =>
      rw [Sod.readSlot_setRead]
      exact (hbefore checked.inUse).later _
  | _ => exact hkept rfl

/-- What the secure OD replies on an entry: nothing, a challenge, or a frame it sealed. -/
theorem reply_sealed {history : List Exchange} {body : List UInt8}
    (h : Move gcm P client req arrival s idx entry log (.ok body) s')
    (hbefore : (s.readSlot idx).inUse = true → PreparedSealed history d (s.readSlot idx)) :
    body = [] ∨ (∃ sr, .random (some sr) ∈ log ∧ body = toList sr) ∨
      ∃ y ∈ history ++ [⟨client, d, req, .ok body, log⟩], y.dataId = d ∧ SealedIn y body := by
  cases h with
  | fetchedOnce ro empty inUse ready fresh single =>
      exact .inr (.inr (((hbefore inUse).later _) ready))
  | fetchedCyclic ro empty inUse ready fresh cyclic =>
      exact .inr (.inr (((hbefore inUse).later _) ready))
  | readPolled checked passive clock gate source sealed =>
      exact .inr (.inr ⟨_, List.mem_append_right _ (List.mem_singleton_self _), rfl,
        .poll (mem_sealings (List.mem_append_right _ List.mem_cons_self))⟩)
  | writeArmed wo len idle kid binding passive passive' gate guard =>
      exact .inr (.inl ⟨_, List.mem_append_right _ List.mem_cons_self, rfl⟩)
  | pass2Once checked opened hook single => exact .inl rfl
  | pass2Cyclic checked opened hook cyclic => exact .inl rfl
  | writePolled checked opened hook => exact .inl rfl

/-- Every seal of a move is made under the key installed for its key id. -/
theorem seal_installed (h : Move gcm P client req arrival s idx entry log r s') :
    ∀ q ∈ sealings log, s.keys.getKey (keyidBase q.call.keyId) = some q.call.key := by
  have heffect := read_effect entry.dataId h
  have hone : ∀ {q : Sealing}, sealings log = [q] →
      s.keys.getKey (keyidBase q.call.keyId) = some q.call.key → ∀ q' ∈ sealings log,
        s.keys.getKey (keyidBase q'.call.keyId) = some q'.call.key := by
    intro q hlog hq q' hq'
    rw [hlog] at hq'
    rw [List.mem_singleton.mp hq']
    exact hq
  have hnone : sealings log = [] → ∀ q ∈ sealings log,
      s.keys.getKey (keyidBase q.call.keyId) = some q.call.key := by
    intro hlog q hq
    rw [hlog] at hq
    cases hq
  generalize s'.readSlot idx = slot at heffect
  cases heffect with
  | untouched seals notDeferred silent => exact hnone seals
  | dropped seals aborted down => exact hnone seals
  | armFailed checked seals aborted failed => exact hone seals checked.installed
  | armed checked seals deferred => exact hone seals checked.installed
  | fetchedOnce seals empty inUse ready delivered => exact hnone seals
  | fetchedCyclic seals empty inUse ready delivered => exact hnone seals
  | pollFailed checked seals aborted failed => exact hone seals checked.installed
  | polled checked seals delivered => exact hone seals checked.installed

/-- And every write is the plaintext of a frame that verified under such a key. -/
theorem write_verified (h : Move gcm P client req arrival s idx entry log r s') :
    ∀ target src kid rc, .writeAfter target src kid rc ∈ log → ∃ call cipher tag,
      .aeadOpen call cipher tag (some src) ∈ log ∧ aeadOpen gcm call cipher tag = some src ∧
      s.keys.getKey (keyidBase call.keyId) = some call.key := by
  intro target src kid rc hmem
  rcases apply_cases h with ⟨hnone, -⟩ | ⟨frame, plain, kid', rc', happlied⟩
  · exact absurd (hnone _ hmem) (by simp [isWriteAfter])
  · obtain ⟨pre, post, hlog⟩ := List.append_of_mem hmem
    obtain ⟨now, hpre, -, rfl, -, -⟩ := happlied.split hlog
    refine ⟨frame.call, frame.cipher, frame.tag, ?_, happlied.opened, happlied.installed⟩
    rw [hlog, hpre]
    simp

end Seals

/-- The prepared replies of a server are sealed. -/
def ServerPrepared (s : Server (DemoHost E)) : Prop := SlotsSatisfy readSide PreparedSealed s

/-- Every step of the secure OD keeps it. -/
theorem serverPrepared_step {P : Ports (DemoHost E)} (s : Server (DemoHost E))
    (a : Input (DemoHost E)) (h : ServerPrepared s) : ServerPrepared (step gcm P s a) :=
  slots_step (fun _ x _ _ _ hR => hR.later x)
    (fun _ hm huse hbefore => preparedSealed_move hm huse hbefore) s a h

/-- So do all states that the secure OD can get to. -/
theorem serverPrepared_reaches {P : Ports (DemoHost E)} {s s' : Server (DemoHost E)}
    (h : ServerPrepared s) (hreach : Reaches gcm P s s') : ServerPrepared s' := by
  obtain ⟨inputs, rfl⟩ := hreach
  exact run_induction (P := fun _ _ => True) (fun s a hs _ => serverPrepared_step s a hs) h
    (along_of_forall (fun _ _ => trivial) _ _)

/-! ## The law -/

/-- A call of an entry hook that took effect on an entry of the secure OD. -/
def CrossesTo (d : Device E) : Call → Prop
  | .readBefore target rc _ | .writeAfter target _ rc =>
      d.server.sod.registry.find target ≠ none ∧ rc = abortNone
  | _ => False

/-- A request that the values have no part in: they stay, and no reply depends on them. -/
structure Untold (gcm : Gcm) (ed : Ed25519) (plat : DevicePlatform E) (deviceId : UInt16)
    (d : Device E) (client : UInt16) (dataId : UInt32) (req : List UInt8) : Prop where
  kept : valuesOf (serveRequest gcm ed plat deviceId d client dataId req).device.server.host
    = valuesOf d.server.host
  replies : ∀ μ, Behind d μ →
    (serveRequest gcm ed plat deviceId (onDevice μ d) client dataId req).sent
      = (serveRequest gcm ed plat deviceId d client dataId req).sent

/-- A request that the secure OD answered in the exchange `x`, ending in `w`. -/
structure Secured (gcm : Gcm) (d : Device E) (x : Exchange) (w : DevWorld E) : Prop where
  /-- The values move by the calls of the exchange alone, -/
  moved : valuesOf w.device.server.host = x.calls.foldl hookEffect (valuesOf d.server.host)
  /-- which are for its own entry, -/
  own : ∀ e ∈ x.calls, ForEntry x.dataId e
  /-- and write only what a frame brought that verified under an installed key. -/
  verified : ∀ target src kid rc, .writeAfter target src kid rc ∈ x.calls → ∃ call cipher tag,
    .aeadOpen call cipher tag (some src) ∈ x.calls ∧ aeadOpen gcm call cipher tag = some src ∧
    d.server.sod.keys.getKey (keyidBase call.keyId) = some call.key
  /-- Seals are made under installed keys, -/
  installed : ∀ q ∈ sealings x.calls,
    d.server.sod.keys.getKey (keyidBase q.call.keyId) = some q.call.key
  /-- and nothing but a challenge goes out unsealed. -/
  replies : ∀ reply ∈ w.sent, reply.body = [] ∨
    (∃ sr, .random (some sr) ∈ x.calls ∧ reply.body = toList sr) ∨
    ∃ y ∈ d.server.history ++ [x], y.dataId = x.dataId ∧ SealedIn y reply.body

/-- The law of a step. -/
def OneMechanism (gcm : Gcm) (ed : Ed25519) (plat : DevicePlatform E) (deviceId : UInt16)
    (n : Node E) : NodeInput E → Prop
  | .request client dataId req =>
      let w := serveRequest gcm ed plat deviceId n.device client dataId req
      let x := exchange gcm (demoPorts deviceId plat.toPlatform) n.device.server client dataId req
        dispatchReplyMax
      (∀ call ∈ w.calls, ¬ CrossesTo n.device call) ∧
        (Untold gcm ed plat deviceId n.device client dataId req ∨ Secured gcm n.device x w)
  | .platform _ => True

/-! ## The condition -/

/-- A signed read that gets as far as its hook. -/
structure SignedRead (d : Device E) (client : UInt16) (dataId : UInt32) (req : List UInt8) :
    Prop where
  object : ForAccess d rpkGenericReadId dataId
  held : HeldBy d.challenge client rpkGenericReadId
  len : req.length = 3 + rpkNonceLen

/-- A signed write that gets as far as its hook. -/
structure SignedWrite (ed : Ed25519) (deviceId : UInt16) (d : Device E) (client : UInt16)
    (dataId : UInt32) (req : List UInt8) : Prop where
  object : ForAccess d rpkGenericWriteId dataId
  verified : ∃ peer, Attempt d client rpkGenericWriteId req peer ∧
    ed.verify peer (verifyTranscript d deviceId client rpkGenericWriteId req)
      (accessOf rpkGenericWriteId req).sig = true

/-- A signed access that names a registered entry which its hook reads or writes. -/
def Crosses (ed : Ed25519) (deviceId : UInt16) (d : Device E) (client : UInt16)
    (dataId : UInt32) (req : List UInt8) : Prop :=
  d.server.sod.registry.find (targetId req) ≠ none ∧
    (SignedRead d client dataId req ∧ (targetId req = rdDataId ∨ targetId req = srdDataId) ∨
      SignedWrite ed deviceId d client dataId req ∧
        (targetId req = swrDataId ∧ (writeAccess req).value.length = entrySecureLen ∨
          targetId req = wrDataId ∧ (writeAccess req).value.length = entryValueLen))

/-- No signed access crosses over to the entries. -/
def StaysApart (ed : Ed25519) (deviceId : UInt16) (n : Node E) : NodeInput E → Prop
  | .request client dataId req => ¬ Crosses ed deviceId n.device client dataId req
  | .platform _ => True

section Decidable

variable {d : Device E} {client : UInt16} {dataId : UInt32} {req : List UInt8}

instance {c : Challenge} {object : UInt32} : Decidable (HeldBy c client object) :=
  decidable_of_iff (c.armed = true ∧ c.clientDev = client ∧ c.dataId = object)
    ⟨fun h => ⟨h.1, h.2.1, h.2.2⟩, fun h => ⟨h.armed, h.client, h.object⟩⟩

instance {object : UInt32} : Decidable (ForAccess d object dataId) :=
  inferInstanceAs (Decidable (_ ∧ _))

instance : Decidable (Pass2Body dataId req) := inferInstanceAs (Decidable (_ ∨ _))

instance : Decidable (SignedRead d client dataId req) :=
  decidable_of_iff (ForAccess d rpkGenericReadId dataId ∧ HeldBy d.challenge client rpkGenericReadId
      ∧ req.length = 3 + rpkNonceLen)
    ⟨fun h => ⟨h.1, h.2.1, h.2.2⟩, fun h => ⟨h.object, h.held, h.len⟩⟩

instance : Decidable (SignedWrite ed deviceId d client dataId req) :=
  decidable_of_iff (ForAccess d rpkGenericWriteId dataId ∧
      HeldBy d.challenge client rpkGenericWriteId ∧ Pass2Body rpkGenericWriteId req ∧
      (d.asym.getPeer rpkWritePeerSlot).any (fun peer => ed.verify peer
        (verifyTranscript d deviceId client rpkGenericWriteId req)
        (accessOf rpkGenericWriteId req).sig) = true) <| by
    constructor
    · rintro ⟨hobject, hheld, hbody, hany⟩
      cases hpeer : d.asym.getPeer rpkWritePeerSlot with
      | none =>
          rw [hpeer] at hany
          cases hany
      | some peer =>
          rw [hpeer] at hany
          exact ⟨hobject, peer, ⟨hheld, hbody, hpeer⟩, hany⟩
    · rintro ⟨hobject, peer, hattempt, hgood⟩
      refine ⟨hobject, hattempt.held, hattempt.body, ?_⟩
      rw [hattempt.peer]
      exact hgood

instance : Decidable (Crosses ed deviceId d client dataId req) :=
  inferInstanceAs (Decidable (_ ∧ (_ ∨ _)))

instance (n : Node E) : ∀ a, Decidable (StaysApart ed deviceId n a)
  | .request client dataId req =>
      inferInstanceAs (Decidable ¬ Crosses ed deviceId n.device client dataId req)
  | .platform _ => .isTrue trivial

end Decidable

/-! ## Between two requests -/

/-- Which entries are registered, and that the prepared replies are sealed. -/
structure EntriesInv (n : Node E) : Prop where
  rd : n.device.server.sod.registry.find rdDataId ≠ none
  wr : n.device.server.sod.registry.find wrDataId ≠ none
  swr : n.device.server.sod.registry.find swrDataId ≠ none
  rpkRd : n.device.server.sod.registry.find rpkRdDataId = none
  rpkWr : n.device.server.sod.registry.find rpkWrDataId = none
  prepared : ServerPrepared n.device.server

/-- The invariant holds of a booted device. -/
theorem entriesInv_start {cfg : BootConfig} {env : E} {d : Device E}
    (hstart : odInit ed cfg env = some d) : EntriesInv (⟨d, []⟩ : Node E) := by
  obtain ⟨constOd, registry, keys, -, hreg, -, rfl⟩ := odInit_cases hstart
  have hall : ∀ b, ((demoEntries b).foldlM sodRegisterEntry Registry.empty).all
      (fun r => (r.find rdDataId).isSome && (r.find wrDataId).isSome &&
        (r.find swrDataId).isSome && (r.find rpkRdDataId).isNone &&
        (r.find rpkWrDataId).isNone) = true := by decide +kernel
  have h := hall (constOdGetIdentity constOd).1
  rw [hreg] at h
  simp only [Option.all_some, Bool.and_eq_true, Option.isSome_iff_ne_none,
    Option.isNone_iff_eq_none] at h
  refine ⟨h.1.1.1.1, h.1.1.1.2, h.1.1.2, h.1.2, h.2, ?_⟩
  rintro i hi
  cases hi

/-- No turn registers an entry. -/
theorem turn_registry {d d' : Device E} {client : UInt16} {dataId : UInt32} {req : List UInt8}
    {sent : List Reply} {calls : List Call}
    (h : Turn gcm ed plat deviceId client dataId req d sent calls d') :
    d'.server.sod.registry = d.server.sod.registry := by
  cases h with
  | secured =>
      rcases request_cases gcm (demoPorts deviceId plat.toPlatform) d.server client dataId req
        dispatchReplyMax with ⟨-, -, hstep⟩ | ⟨idx, entry, log, r, s', host, -, hm, -, hstep⟩
      · rw [secureStep, hstep]
      · rw [secureStep, hstep]
        exact Move.registry hm
  | _ => rfl

/-- Every step keeps it. -/
theorem entriesInv_step (n : Node E) (a : NodeInput E) (h : EntriesInv n) :
    EntriesInv (nodeStep gcm ed plat deviceId n a) := by
  have hkept : ∀ {n' : Node E}, Reaches gcm (demoPorts deviceId plat.toPlatform) n.device.server
      n'.device.server → n'.device.server.sod.registry = n.device.server.sod.registry →
      EntriesInv n' := by
    intro n' hreach hreg
    refine ⟨?_, ?_, ?_, ?_, ?_, serverPrepared_reaches h.prepared hreach⟩
    all_goals rw [hreg]
    exacts [h.rd, h.wr, h.swr, h.rpkRd, h.rpkWr]
  cases a with
  | request client dataId req =>
      have hturn : Turn gcm ed plat deviceId client dataId req n.device _ _ _ :=
        dispatchRequest_turn
      exact hkept (turn_reaches hturn) (turn_registry hturn)
  | platform env => exact hkept ((Reaches.refl _).host _) rfl

/-! ## Requests that stay apart -/

section Apart

variable {d : Device E} {client : UInt16} {dataId : UInt32} {req : List UInt8}

/-- **The secure OD answers by its law.** -/
theorem secured_step (h : ServerPrepared d.server)
    (hfind : d.server.sod.registry.find dataId ≠ none) :
    Secured gcm d (exchange gcm (demoPorts deviceId plat.toPlatform) d.server client dataId req
        dispatchReplyMax)
      ⟨secureStep gcm plat deviceId client dataId req d,
        [secureReply client dataId (exchange gcm (demoPorts deviceId plat.toPlatform) d.server
          client dataId req dispatchReplyMax).result], []⟩ := by
  have htracked : wp (sodDispatch gcm (demoPorts deviceId plat.toPlatform) client dataId req
      dispatchReplyMax) (fun _ w => Tracked dataId (valuesOf d.server.host) w)
      ⟨d.server.sod, d.server.host, []⟩ := dispatch_values plat.toPlatform _ _ _ _ _
  rcases request_cases gcm (demoPorts deviceId plat.toPlatform) d.server client dataId req
    dispatchReplyMax with ⟨hnone, -, -⟩ | ⟨idx, entry, log, r, s', host, hf, hm, hx, -⟩
  · exact absurd hnone hfind
  have hcalls : (exchange gcm (demoPorts deviceId plat.toPlatform) d.server client dataId req
      dispatchReplyMax).calls = log := congrArg Exchange.calls hx
  refine ⟨htracked.values, htracked.own, ?_, ?_, ?_⟩
  · rw [hcalls]
    exact write_verified hm
  · rw [hcalls]
    exact seal_installed hm
  · rw [hx]
    intro reply hreply
    rw [List.mem_singleton.mp hreply]
    cases r with
    | ok body => exact reply_sealed hm fun huse => h.at hf huse
    | defer => exact .inl rfl
    | abort code => exact .inl rfl
    | notHandled => exact .inl rfl

/-- Other values, all of them. -/
def shifted (v : Values) : Values where
  value i := v.value i + 1
  secureRo i := v.secureRo i + 1
  secureWo i := v.secureWo i + 1

theorem block_ne_shifted {n : Nat} [NeZero n] (b : Block n) : (fun i => b i + 1) ≠ b := by
  intro h
  have hzero := congrFun h 0
  simp at hzero

/-- What a turn's hook calls were made with. -/
theorem turn_read {d' : Device E} {sent : List Reply} {calls : List Call} {target : UInt32}
    {rc : Abort} {val : List UInt8}
    (h : Turn gcm ed plat deviceId client dataId req d sent calls d')
    (hmem : .readBefore target rc val ∈ calls) :
    (demoReadBefore target d.server.host).1 = (rc, val) := by
  cases h with
  | readRefused object held hook =>
      cases List.mem_singleton.mp hmem
      rw [hook]
  | readSigned object held len short hook =>
      rcases List.mem_cons.mp hmem with hmem | hmem
      · cases hmem
        rw [hook]
      · cases List.mem_singleton.mp hmem
  | _ => simp at hmem

theorem turn_written {d' : Device E} {sent : List Reply} {calls : List Call} {target : UInt32}
    {rc : Abort} {src : List UInt8}
    (h : Turn gcm ed plat deviceId client dataId req d sent calls d')
    (hmem : .writeAfter target src rc ∈ calls) : src.length ≤ rpkValueMax ∧
      (demoWriteAfter target src d.server.sod.lastWriteKid d.server.sod.keys
        d.server.host).1 = rc ∧
      (demoWriteAfter target src d.server.sod.lastWriteKid d.server.sod.keys
        d.server.host).2.2 = d'.server.host := by
  cases h with
  | written object attempt good hook =>
      rcases List.mem_cons.mp hmem with hmem | hmem
      · cases hmem
      · cases List.mem_singleton.mp hmem
        rw [hook]
        subst object
        exact ⟨(pass2_lengths attempt.body).2, rfl, rfl⟩
  | _ => simp at hmem

/-- What `read_before` answers. -/
theorem demoReadBefore_taken {target : UInt32} {val : List UInt8} {h : DemoHost E}
    (htaken : (demoReadBefore target h).1 = (abortNone, val)) :
    target = srdDataId ∧ val = toList h.secureRo ∨ target = rdDataId ∧ val = toList h.value ∨
      target = rpkRdDataId := by
  have hobject : abortNoObject ≠ abortNone := by decide
  unfold demoReadBefore at htaken
  split at htaken
  · rename_i hs
    exact .inl ⟨hs, (congrArg Prod.snd htaken).symm⟩
  · split at htaken
    · rename_i hr
      exact .inr (.inl ⟨hr, (congrArg Prod.snd htaken).symm⟩)
    · split at htaken
      · rename_i hp
        exact .inr (.inr hp)
      · exact absurd (congrArg Prod.fst htaken) hobject

/-- What `write_after` takes of a signed write, whose value is too short for a key set. -/
theorem demoWriteAfter_taken {target : UInt32} {src : List UInt8} {kid : UInt8}
    {keys : KeyStore} {h : DemoHost E} (hlen : src.length ≤ rpkValueMax)
    (htaken : (demoWriteAfter target src kid keys h).1 = abortNone) :
    target = swrDataId ∧ src.length = entrySecureLen ∨
      target = wrDataId ∧ src.length = entryValueLen ∨ target = rpkWrDataId := by
  have hobject : abortNoObject ≠ abortNone := by decide
  have hmismatch : abortTypeMismatch ≠ abortNone := by decide
  unfold demoWriteAfter at htaken
  split at htaken
  · rename_i hs
    split at htaken
    · exact absurd htaken hmismatch
    · rename_i hfull
      exact .inl ⟨hs, not_not.mp hfull⟩
  · split at htaken
    · rename_i hw
      split at htaken
      · exact absurd htaken hmismatch
      · rename_i hfull
        exact .inr (.inl ⟨hw, not_not.mp hfull⟩)
    · split at htaken
      · have hshort : src.length ≠ keySetBodyLen := by
          have hlen' : src.length ≤ 16 := hlen
          show src.length ≠ 21
          omega
        simp only [applyKeySet, if_pos hshort] at htaken
        exact absurd htaken hmismatch
      · split at htaken
        · rename_i hp
          exact .inr (.inr hp)
        · exact absurd htaken hobject

/-- **What does not see the values does not touch them**: a call of a hook that took effect
    on a registered entry would come out differently with other values. -/
theorem untold_apart {n : Node E} (h : EntriesInv n) {client : UInt16} {dataId : UInt32}
    {req : List UInt8}
    (htwin : ∀ μ, Behind n.device μ →
      serveRequest gcm ed plat deviceId (onDevice μ n.device) client dataId req
        = onWorld μ (serveRequest gcm ed plat deviceId n.device client dataId req)) :
    ∀ call ∈ (serveRequest gcm ed plat deviceId n.device client dataId req).calls,
      ¬ CrossesTo n.device call := by
  -- the other run changes every value that may be changed
  let μ : Values → Values := fun v => { shifted v with
    secureRo := if n.device.server.sod.registry.find srdDataId = none then v.secureRo
      else (shifted v).secureRo }
  have hbehind : Behind n.device μ := fun hnone => by simp only [μ, if_pos hnone]; rfl
  have hother := htwin μ hbehind
  have hturn : Turn gcm ed plat deviceId client dataId req n.device
    (serveRequest gcm ed plat deviceId n.device client dataId req).sent
    (serveRequest gcm ed plat deviceId n.device client dataId req).calls
    (serveRequest gcm ed plat deviceId n.device client dataId req).device := dispatchRequest_turn
  have hturn' : Turn gcm ed plat deviceId client dataId req (onDevice μ n.device)
    (serveRequest gcm ed plat deviceId (onDevice μ n.device) client dataId req).sent
    (serveRequest gcm ed plat deviceId (onDevice μ n.device) client dataId req).calls
    (serveRequest gcm ed plat deviceId (onDevice μ n.device) client dataId req).device :=
      dispatchRequest_turn
  rw [hother] at hturn'
  generalize serveRequest gcm ed plat deviceId n.device client dataId req = w at hturn hturn' ⊢
  intro call hcall hcross
  cases call with
  | readBefore target rc val =>
      obtain ⟨hregistered, rfl⟩ := hcross
      have hread' := turn_read hturn' hcall
      rcases demoReadBefore_taken (turn_read hturn hcall) with ⟨rfl, rfl⟩ | ⟨rfl, rfl⟩ | rfl
      · have hsame : (μ (valuesOf n.device.server.host)).secureRo
            = n.device.server.host.secureRo := toList_inj.mp (congrArg Prod.snd hread')
        simp only [μ, if_neg hregistered] at hsame
        exact block_ne_shifted _ hsame
      · exact block_ne_shifted _ (toList_inj.mp (congrArg Prod.snd hread'))
      · exact hregistered h.rpkRd
  | writeAfter target src rc =>
      obtain ⟨hregistered, rfl⟩ := hcross
      obtain ⟨hlen, hrc, hhost⟩ := turn_written hturn hcall
      obtain ⟨-, -, hhost'⟩ := turn_written hturn' hcall
      have hvalues := demoWriteAfter_values target src n.device.server.sod.lastWriteKid
        n.device.server.sod.keys n.device.server.host abortNone
      have hvalues' := demoWriteAfter_values target src n.device.server.sod.lastWriteKid
        n.device.server.sod.keys (onHost μ n.device.server.host) abortNone
      rw [hhost] at hvalues
      replace hvalues' := (congrArg valuesOf hhost').symm.trans hvalues'
      -- both runs end in what the write brought, but one of them in a changed value
      rcases demoWriteAfter_taken hlen hrc with ⟨rfl, hfull⟩ | ⟨rfl, hfull⟩ | rfl
      · rw [hookEffect_write, if_pos ⟨rfl, hfull⟩] at hvalues hvalues'
        have hnow : w.device.server.host.secureWo = slice 16 0 src := congrArg Values.secureWo hvalues
        have hother' : (μ (valuesOf w.device.server.host)).secureWo = slice 16 0 src :=
          congrArg Values.secureWo hvalues'
        exact block_ne_shifted _ (hother'.trans hnow.symm)
      · have hne : ¬ (wrDataId = swrDataId ∧ src.length = entrySecureLen) := fun h =>
          absurd h.1 (by decide)
        rw [hookEffect_write, if_neg hne, if_pos ⟨rfl, hfull⟩] at hvalues hvalues'
        have hnow : w.device.server.host.value = slice 4 0 src := congrArg Values.value hvalues
        have hother' : (μ (valuesOf w.device.server.host)).value = slice 4 0 src :=
          congrArg Values.value hvalues'
        exact block_ne_shifted _ (hother'.trans hnow.symm)
      · exact hregistered h.rpkWr
  | _ => exact hcross

/-- **A step that stays apart keeps the law.** -/
theorem oneMechanism_of_apart {n : Node E} (h : EntriesInv n) {a : NodeInput E}
    (ha : StaysApart ed deviceId n a) : OneMechanism gcm ed plat deviceId n a := by
  cases a with
  | platform env => trivial
  | request client dataId req =>
      have hread : ForAccess n.device rpkGenericReadId dataId →
          ∀ μ, Behind n.device μ → ReadAvoids μ n.device client req := by
        intro hobject μ hμ held hlen
        refine ⟨fun hrd => ha ⟨hrd ▸ h.rd, .inl ⟨⟨hobject, held, hlen⟩, .inl hrd⟩⟩, fun hsrd => ?_⟩
        by_cases hnone : n.device.server.sod.registry.find srdDataId = none
        · exact hμ hnone
        · exact absurd ⟨hsrd ▸ hnone, .inl ⟨⟨hobject, held, hlen⟩, .inr hsrd⟩⟩ ha
      have hwrite : ForAccess n.device rpkGenericWriteId dataId →
          WriteAvoids ed deviceId n.device client req := by
        intro hobject peer hattempt hgood
        refine ⟨fun hswr hlen => ha ⟨hswr ▸ h.swr, .inr ⟨⟨hobject, peer, hattempt, hgood⟩, ?_⟩⟩,
          fun hwr hlen => ha ⟨hwr ▸ h.wr, .inr ⟨⟨hobject, peer, hattempt, hgood⟩, ?_⟩⟩⟩
        · exact .inl ⟨hswr, hlen⟩
        · exact .inr ⟨hwr, hlen⟩
      rcases front_oblivious gcm plat hread hwrite with htwin |
        ⟨hfind, hserved⟩
      · refine ⟨untold_apart h htwin, .inl ⟨?_, fun μ hμ => by rw [htwin μ hμ]; rfl⟩⟩
        -- run with the values it has, the request ends in those values
        exact congrArg (fun w => valuesOf w.device.server.host)
          (htwin (fun _ => valuesOf n.device.server.host) fun _ => rfl)
      · show (∀ call ∈ (serveRequest gcm ed plat deviceId n.device client dataId req).calls, _) ∧ _
        rw [hserved]
        exact ⟨by simp, .inr (secured_step h.prepared hfind)⟩

/-! ## Requests that cross -/

/-- The tiers in front of the signed accesses pass their objects on. -/
theorem wp_access {Q : Unit → DevWorld E → Prop} {object : UInt32}
    (hobject : object ∈ [rpkGenericReadId, rpkGenericWriteId])
    (hconst : constOdGet d.constOd (dataIdIndex object) (dataIdSub object) = none)
    (hserved : wp (rpkTry ed plat deviceId client object req)
      (fun handled w => handled = true ∧ Q () w) ⟨d, [], []⟩) :
    wp (dispatchRequest gcm ed plat deviceId client object req) Q ⟨d, [], []⟩ := by
  have hconst' : tryServeConstOd client object req (⟨d, [], []⟩ : DevWorld E)
      = (false, ⟨d, [], []⟩) := tryServeConstOd_passes hconst
  have hfront : tryServeDescriptor client object req (⟨d, [], []⟩ : DevWorld E)
        = (false, ⟨d, [], []⟩) ∧
      securityTry client object req (⟨d, [], []⟩ : DevWorld E) = (false, ⟨d, [], []⟩) ∧
      handoverTry ed client object req (⟨d, [], []⟩ : DevWorld E) = (false, ⟨d, [], []⟩) := by
    rcases List.mem_cons.mp hobject with rfl | hobject
    · exact ⟨rfl, rfl, rfl⟩
    · obtain rfl := List.mem_singleton.mp hobject
      exact ⟨rfl, rfl, rfl⟩
  rw [dispatchRequest, wp_passed hfront.1, wp_passed hconst', wp_passed hfront.2.1,
    wp_passed hfront.2.2, wp_served hserved.1]
  exact hserved.2

/-- A signed read that crosses reads the entry. -/
theorem signedRead_crosses (gcm : Gcm) (ed : Ed25519) (plat : DevicePlatform E)
    (deviceId : UInt16) (h : SignedRead d client dataId req)
    (htarget : targetId req = rdDataId ∨ targetId req = srdDataId) :
    ∃ val, .readBefore (targetId req) abortNone val
      ∈ (serveRequest gcm ed plat deviceId d client dataId req).calls := by
  obtain ⟨rfl, hconst⟩ := h.object
  have hlen : req.length = 19 := h.len
  have hhook : (demoReadBefore (targetId req) d.server.host).1.1 = abortNone := by
    rcases htarget with htarget | htarget <;> rw [htarget] <;> rfl
  have hserved : wp (rpkTry ed plat deviceId client rpkGenericReadId req) (fun handled w =>
      handled = true ∧ ∃ val, .readBefore (targetId req) abortNone val ∈ w.calls)
      ⟨d, [], []⟩ := by
    show wp (handleGenericRead ed plat deviceId client req) _ _
    unfold handleGenericRead
    simp only [wp_ite, wp_bind, wp_getDevice, wp_emit, wp_hookReadBefore, wp_disarm, wp_record]
    refine ⟨fun h3 => ?_, fun _ => ⟨fun hbad => ?_, fun _ => ⟨fun hbad => ?_, fun _ => ?_⟩⟩⟩
    · simp [hlen] at h3
    · exact absurd hlen (bne_iff_ne.mp hbad)
    · simp [h.held.armed, h.held.client, h.held.object] at hbad
    · rintro rc val host hook
      rw [hook] at hhook
      obtain rfl : rc = abortNone := hhook
      simp
  show wp (dispatchRequest gcm ed plat deviceId client rpkGenericReadId req)
    (fun _ w => ∃ val, .readBefore (targetId req) abortNone val ∈ w.calls) ⟨d, [], []⟩
  exact wp_access (by decide) hconst hserved

/-- A signed write that crosses writes it. -/
theorem signedWrite_crosses (h : SignedWrite ed deviceId d client dataId req)
    (htarget : targetId req = swrDataId ∧ (writeAccess req).value.length = entrySecureLen ∨
      targetId req = wrDataId ∧ (writeAccess req).value.length = entryValueLen) :
    .writeAfter (targetId req) (writeAccess req).value abortNone
      ∈ (serveRequest gcm ed plat deviceId d client dataId req).calls := by
  obtain ⟨rfl, hconst⟩ := h.object
  obtain ⟨peer, attempt, hgood⟩ := h.verified
  have hhook : ∀ kid keys host, (demoWriteAfter (targetId req) (writeAccess req).value kid keys
      (host : DemoHost E)).1 = abortNone := by
    intro kid keys host
    rcases htarget with ⟨htarget, hlen⟩ | ⟨htarget, hlen⟩
    · rw [htarget, demoWriteAfter, if_pos rfl, if_neg (not_not.mpr hlen)]
    · rw [htarget, demoWriteAfter, if_neg (by decide), if_pos rfl, if_neg (not_not.mpr hlen)]
  have hserved : wp (rpkTry ed plat deviceId client rpkGenericWriteId req) (fun handled w =>
      handled = true ∧ .writeAfter (targetId req) (writeAccess req).value abortNone ∈ w.calls)
      ⟨d, [], []⟩ := by
    show wp (handleGenericWrite ed plat deviceId client req) _ _
    obtain ⟨-, hmin, hmax⟩ | ⟨hobject, -⟩ := attempt.body
    · unfold handleGenericWrite
      simp only [wp_ite, wp_bind, wp_emit]
      refine ⟨fun h3 => ?_, fun _ => ⟨fun hbad => absurd hmin (not_le.mpr hbad), fun _ =>
        ⟨fun hbad => absurd hmax (not_le.mpr hbad), fun _ => ?_⟩⟩⟩
      · have hlen : req.length = 3 := by simpa using h3
        have hmin' : 83 ≤ req.length := hmin
        omega
      refine wp_verifySigned attempt.body (fun hno => absurd attempt.held hno)
        (fun _ hno => ?_) (fun peer' attempt' => ?_)
      · rw [attempt.peer] at hno
        cases hno
      · obtain rfl : peer = peer' := Option.some.inj (attempt.peer.symm.trans attempt'.peer)
        simp only [wp_ite, wp_bind, wp_emit, wp_hookWriteAfter]
        rw [if_pos hgood]
        refine ⟨fun hbad => absurd hbad (by decide), fun _ rc keys host hook => ?_⟩
        have hrc := hhook d.server.sod.lastWriteKid d.server.sod.keys d.server.host
        have hrc' : (rc, keys, host).1 = abortNone := (congrArg Prod.fst hook).symm.trans hrc
        obtain rfl : rc = abortNone := hrc'
        exact ⟨trivial, List.mem_append_right _ (List.mem_singleton_self _)⟩
    · exact absurd hobject (by decide)
  show wp (dispatchRequest gcm ed plat deviceId client rpkGenericWriteId req)
    (fun _ w => .writeAfter (targetId req) (writeAccess req).value abortNone ∈ w.calls) ⟨d, [], []⟩
  exact wp_access (by decide) hconst hserved

/-- **A step that crosses breaks the law.** -/
theorem apart_of_oneMechanism {n : Node E} {a : NodeInput E}
    (h : OneMechanism gcm ed plat deviceId n a) : StaysApart ed deviceId n a := by
  cases a with
  | platform env => trivial
  | request client dataId req =>
      rintro ⟨hregistered, ⟨hread, htarget⟩ | ⟨hwrite, htarget⟩⟩
      · obtain ⟨val, hcall⟩ := signedRead_crosses gcm ed plat deviceId hread htarget
        exact h.1 _ hcall ⟨hregistered, rfl⟩
      · exact h.1 _ (signedWrite_crosses hwrite htarget) ⟨hregistered, rfl⟩

end Apart

/-! ## The headline -/

/-- **One mechanism per entry, exactly as long as the signed accesses stay apart**: in every
    run from every start configuration, the law holds of all steps if and only if no signed
    access crosses. -/
theorem one_mechanism_iff (gcm : Gcm) (ed : Ed25519) (plat : DevicePlatform E)
    (deviceId : UInt16) (cfg : BootConfig) (env : E) (d : Device E)
    (hstart : odInit ed cfg env = some d) (inputs : List (NodeInput E)) :
    Along (nodeStep gcm ed plat deviceId) (OneMechanism gcm ed plat deviceId) ⟨d, []⟩ inputs ↔
      Along (nodeStep gcm ed plat deviceId) (StaysApart ed deviceId) ⟨d, []⟩ inputs :=
  along_congr_invariant entriesInv_step
    (fun _ _ h => ⟨apart_of_oneMechanism, oneMechanism_of_apart h⟩) (entriesInv_start hstart)

/-! ## Worked runs -/

/-- A client reads a target by a signed access. -/
def sampleSignedRead (target : List UInt8) : List (NodeInput SampleEnv) :=
  [.request 20 rpkGenericReadId target,
    .request 20 rpkGenericReadId (target ++ toList (sampleNonce 0x40))]

/-- The demo device with its session keys, a nonce and a random to draw. -/
def sampleKeyed : Device SampleEnv :=
  (odInit sampleEd { demoKeys := true } { nonces := [sampleNonce 1], rands := [sampleRand 9] }).get
    (by decide +kernel)

/-- `one_mechanism_iff` on a signed read of the twin 2021h and a secure read of 2020h. -/
theorem sampleTwin_apart :
    Along (nodeStep sampleGcm sampleEd samplePlatform sampleNodeId)
      (OneMechanism sampleGcm sampleEd samplePlatform sampleNodeId) ⟨sampleKeyed, []⟩
      (sampleSignedRead [0x21, 0x20, 0x00] ++ [.request 20 rdDataId (0x01 :: toList (sampleRand 5)),
        .request 20 rdDataId []]) :=
  (one_mechanism_iff _ _ _ _ { demoKeys := true }
    { nonces := [sampleNonce 1], rands := [sampleRand 9] } sampleKeyed (Option.some_get _).symm
    _).mpr (by decide +kernel)

/-- **A signed read of 2020h**: the value of the entry goes out in the clear. -/
theorem signed_bypass :
    ((nodeAfter sampleGcm sampleEd samplePlatform sampleNodeId sampleKeyed
        (sampleSignedRead [0x20, 0x20, 0x00])).history.flatMap fun v =>
        v.sent.map fun reply => reply.body.take 4)
      = [[0x01, 0x02, 0x03, 0x04], [0x00, 0x11, 0x22, 0x33]] ∧
    ¬ Along (nodeStep sampleGcm sampleEd samplePlatform sampleNodeId)
      (OneMechanism sampleGcm sampleEd samplePlatform sampleNodeId) ⟨sampleKeyed, []⟩
      (sampleSignedRead [0x20, 0x20, 0x00]) := by
  refine ⟨by decide +kernel, ?_⟩
  rintro ⟨-, ⟨hapart, -⟩, -⟩
  exact hapart (.readBefore rdDataId abortNone [0x00, 0x11, 0x22, 0x33]) (by decide +kernel)
    ⟨by decide +kernel, rfl⟩

end SofaMechanisms
