import Sofa.Calls
import Sofa.Accepted
import Sofa.Exec

/-! # What a dispatch does to the host

    Of the port calls only `read_before` and `write_after` act on the application; what the
    others leave alone stays over a dispatch that makes neither, and a dispatch that writes
    leaves what the hook left.

    * `dispatch_untouched`: nothing happens without a call that may touch it;
    * **`dispatch_host`**: what only `write_after` touches is as before, or as `write_after`
      left it on a frame that verifies. -/

namespace SofaHosts

open ByteBlock SofaConfig SofaAead SofaOd SofaMoves SofaServer SofaReads SofaWrites SofaWriteFrames
  SofaCalls SofaAccepted SofaExec StateWp Machine

variable {H α : Type} {gcm : Gcm} {P : Ports H}

/-- The part `f` of the host is left alone by every call that is not in `touch`. -/
structure Inert (P : Ports H) (f : H → α) (touch : Event → Bool) : Prop where
  time : ∀ h, f (P.timeMs h).2 = f h
  random : ∀ h, f (P.random h).2 = f h
  access : ∀ op d h, f (P.accessAllowed op d h).2 = f h
  role : ∀ op b d h, f (P.roleAllowed op b d h).2 = f h
  read : ∀ d h rc bytes, touch (.readBefore d rc bytes) = false → f (P.readBefore d h).2 = f h
  write : ∀ d src kid rc, touch (.writeAfter d src kid rc) = true

/-- No call so far was in `touch`, or nothing is said. -/
def KeptSoFar (f : H → α) (touch : Event → Bool) (v : α) (w : World H) : Prop :=
  (∀ e ∈ w.log, touch e = false) → f w.host = v

section Untouched

variable {f : H → α} {touch : Event → Bool} {v : α}

/-- A call that leaves `f` alone keeps it. -/
theorem KeptSoFar.call {w w' : World H} {e : Event} (h : KeptSoFar f touch v w)
    (hlog : w'.log = w.log ++ [e]) (hhost : touch e = false → f w'.host = f w.host) :
    KeptSoFar f touch v w' := by
  intro hall
  rw [hlog] at hall
  rw [hhost (hall e (by simp))]
  exact h fun e' he' => hall e' (List.mem_append_left _ he')

/-- **Every call keeps it.** -/
theorem stable_keptSoFar (hf : Inert P f touch) {d : UInt32} :
    Stable gcm P d fun _ => KeptSoFar f touch v where
  time _ w h := h.call rfl fun _ => hf.time w.host
  random _ w h := h.call rfl fun _ => hf.random w.host
  access _ op d w h := h.call rfl fun _ => hf.access op d w.host
  role _ op b d w h := h.call rfl fun _ => hf.role op b d w.host
  callSeal _ _ _ _ h := h.call rfl fun _ => rfl
  callOpen _ _ _ _ _ h := h.call rfl fun _ => rfl
  state _ _ _ h := h
  gate w h _ := h.call rfl fun _ => hf.access .read d w.host
  close _ h := h
  source w h := h.call rfl fun ht => hf.read d w.host _ _ ht

/-- A dispatch that makes no call in `touch` leaves `f` alone. -/
theorem dispatch_untouched (hf : Inert P f touch) {s : Sod} {host : H} {client : UInt16}
    {d : UInt32} {req : List UInt8} {replyMax : Nat} :
    wp (sodDispatch gcm P client d req replyMax)
      (fun _ w => (∀ e ∈ w.log, touch e = false) → f w.host = f host) ⟨s, host, []⟩ := by
  have hsink : ∀ src, Keeps (KeptSoFar f touch (f host)) (portWriteAfter P d src) := by
    intro src w h
    refine h.call rfl fun ht => ?_
    rw [hf.write] at ht
    cases ht
  exact (stable_keptSoFar hf).sodDispatch hsink _ fun _ => rfl

end Untouched

/-! ## Frames that verify -/

section Frames

variable {f : H → α} {s : Sod} {host : H} {idx : Fin sodMaxEntries} {entry : SodEntry}
  {client : UInt16} {d : UInt32} {req : List UInt8} {replyMax : Nat}

/-- A Pass-2 frame that verifies leaves of the host what `write_after` left of it. -/
structure LeftByPass2 (gcm : Gcm) (P : Ports H) (f : H → α) (s : Sod) (host : H)
    (idx : Fin sodMaxEntries) (entry : SodEntry) (req : List UInt8) (v : α) (key : Key)
    (plain : List UInt8) : Prop where
  verifies : Pass2Verifies gcm P s host idx entry req key
  opened : aeadOpen gcm (pass2Call P (s.writeSlot idx) entry req key) (pass2Cipher entry req)
    (pass2Tag entry req) = some plain
  left : v = f (P.writeAfter entry.dataId plain (keyidBase (reqHead req)) s.keys
    (hostAtWrite P (keyidBase (reqHead req)) entry.dataId host)).2.2

/-- And so does a write poll that verifies. -/
structure LeftByPoll (gcm : Gcm) (P : Ports H) (f : H → α) (s : Sod) (host : H)
    (idx : Fin sodMaxEntries) (entry : SodEntry) (client : UInt16) (req : List UInt8) (v : α)
    (key : Key) (plain : List UInt8) : Prop where
  verifies : WritePollVerifies gcm P s host idx entry client req key
  opened : aeadOpen gcm (writePollCall P (s.writeSlot idx) entry key) (writePollCipher entry req)
    (writePollTag entry req) = some plain
  left : v = f (P.writeAfter entry.dataId plain s.lastWriteKid s.keys
    (hostAtWrite P (keyidBase (s.writeSlot idx).keyId) entry.dataId host)).2.2

/-- A Pass-2 frame that verifies, run by the dispatcher. -/
theorem pass2_host (htime : ∀ h, f (P.timeMs h).2 = f h)
    (hfind : s.registry.find d = some (idx, entry)) {key : Key} {plain : List UInt8}
    (hv : Pass2Verifies gcm P s host idx entry req key)
    (hopen : aeadOpen gcm (pass2Call P (s.writeSlot idx) entry req key) (pass2Cipher entry req)
      (pass2Tag entry req) = some plain) :
    wp (sodDispatch gcm P client d req replyMax)
      (fun _ w => LeftByPass2 gcm P f s host idx entry req (f w.host) key plain)
      ⟨s, host, []⟩ := by
  have hlimit : readChallengeLen = 13 := rfl
  have hlong := pass2Len_long hv.len
  have hpoll : req.length ≠ pollLen entry := by
    rw [hv.len, pass2Len_eq, pollLen_eq]
    omega
  rw [sodDispatch_data hfind hv.wo (by omega) fun _ => by omega, if_neg fun h => hpoll h.1]
  refine pass2_exec hv hopen rfl (fun _ => ?_) (fun _ _ => ?_) (fun _ _ => ?_)
  · exact ⟨hv, hopen, rfl⟩
  · exact ⟨hv, hopen, rfl⟩
  · exact ⟨hv, hopen, htime _⟩

/-- A write poll that verifies, run by the dispatcher. -/
theorem writePoll_host (htime : ∀ h, f (P.timeMs h).2 = f h)
    (hfind : s.registry.find d = some (idx, entry)) {key : Key} {plain : List UInt8}
    (hv : WritePollVerifies gcm P s host idx entry client req key)
    (hopen : aeadOpen gcm (writePollCall P (s.writeSlot idx) entry key)
      (writePollCipher entry req) (writePollTag entry req) = some plain) :
    wp (sodDispatch gcm P client d req replyMax)
      (fun _ w => LeftByPoll gcm P f s host idx entry client req (f w.host) key plain)
      ⟨s, host, []⟩ := by
  have hlimit : readChallengeLen = 13 := rfl
  have hlong := pollLen_long hv.len
  rw [sodDispatch_data hfind hv.wo (by omega) fun _ => by omega,
    if_pos ⟨hv.len, hv.inUse, hv.cyclic⟩]
  refine writePoll_exec hv hopen rfl (fun _ => ?_) (fun _ => ?_)
  · exact ⟨hv, hopen, rfl⟩
  · exact ⟨hv, hopen, htime _⟩

/-- **The host after a dispatch**, as far as only `write_after` touches it. -/
theorem dispatch_host (hf : Inert P f isWriteAfter)
    (hfind : s.registry.find d = some (idx, entry)) :
    wp (sodDispatch gcm P client d req replyMax)
      (fun _ w => f w.host = f host ∨
        (∃ key plain, LeftByPass2 gcm P f s host idx entry req (f w.host) key plain) ∨
        (∃ key plain, LeftByPoll gcm P f s host idx entry client req (f w.host) key plain))
      ⟨s, host, []⟩ := by
  have hmove : wp (sodDispatch gcm P client d req replyMax) _ ⟨s, host, []⟩ :=
    sodDispatch_move hfind
  obtain ⟨log, hlog, hm⟩ := hmove
  rw [List.nil_append] at hlog
  rcases apply_cases hm with ⟨hnone, -⟩ | ⟨frame, plain, kid, rc, happlied⟩
  · have hkept : wp (sodDispatch gcm P client d req replyMax) _ ⟨s, host, []⟩ :=
      dispatch_untouched hf
    rw [wp, hlog] at hkept
    exact .inl (hkept hnone)
  have hwritten : ¬ ∀ e ∈ log, isWriteAfter e = false := by
    obtain ⟨now, tail, -, rfl⟩ := happlied.calls
    intro h
    have := h (.writeAfter entry.dataId plain kid rc) (by simp)
    cases this
  rcases happlied.frame with ⟨now, key, hchecked, -, -⟩ | ⟨now, key, hchecked, -, -⟩
  · have hv : wp (sodDispatch gcm P client d req replyMax) _ ⟨s, host, []⟩ :=
      pass2_written hfind hchecked.wo hchecked.len
    rw [wp, hlog] at hv
    obtain ⟨key', hverifies⟩ := hv.resolve_left hwritten
    obtain ⟨plain', hopen⟩ := Option.ne_none_iff_exists'.mp hverifies.opened
    exact wp_mono (pass2_host hf.time hfind hverifies hopen)
      fun _ _ hleft => .inr (.inl ⟨key', plain', hleft⟩)
  · have hv : wp (sodDispatch gcm P client d req replyMax) _ ⟨s, host, []⟩ :=
      poll_written hfind hchecked.wo hchecked.len hchecked.inUse hchecked.cyclic
    rw [wp, hlog] at hv
    obtain ⟨key', hverifies⟩ := hv.resolve_left hwritten
    obtain ⟨plain', hopen⟩ := Option.ne_none_iff_exists'.mp hverifies.opened
    exact wp_mono (writePoll_host hf.time hfind hverifies hopen)
      fun _ _ hleft => .inr (.inr ⟨key', plain', hleft⟩)

end Frames

end SofaHosts
