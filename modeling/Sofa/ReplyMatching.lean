import Sofa.SharedBus
import Sofa.Lib.Machine

/-! # Replies are matched to their requests

    The client takes the first response from the addressed node to itself in the session of
    the request, and that is all it looks at when the frame has no multiplexor.  It is
    enough: the session of a frame is that of its transfer (`Sound`), transfers less than 255
    apart have different sessions (`session_near`), and within a call a request goes out only
    when the one before it was answered, so of the call's own frames at most one can still be
    in flight (`Awaits`).

    The headline is **`replies_matched`**: over every run of calls and whatever the bus does,
    a call that succeeds or returns an abort code took for each of its requests the reply of
    the addressed server to that very request. -/

namespace SofaReplyMatching

open SofaConfig SofaDevice SofaUsdo SofaUsdoServer SofaAddressing SofaReassembly SofaCarrier
  SofaSharedBus StateWp Machine Pending
open SofaClient (SecpError)
open SofaUsdoClient (Expected sessionAfter responsePdu)

/-! ## Sessions -/

/-- The session of a transfer, counted from 1. -/
def sessionOf : Nat → UInt8
  | 0 => 0
  | t + 1 => sessionAfter (sessionOf t)

theorem sessionAfter_toNat (s : UInt8) :
    (sessionAfter s).toNat = if s.toNat = 255 then 1 else s.toNat + 1 := by
  have hlt : s.toNat < 256 := UInt8.toNat_lt s
  rw [sessionAfter]
  by_cases hlast : s = 0xFF
  · rw [hlast]
    rfl
  · have hne : s.toNat ≠ 255 := fun h => hlast (UInt8.toNat_inj.mp h)
    rw [if_neg (by simpa using hlast), if_neg hne, UInt8.toNat_add]
    show (s.toNat + 1) % 256 = s.toNat + 1
    exact Nat.mod_eq_of_lt (by omega)

theorem sessionOf_toNat (t : Nat) : (sessionOf (t + 1)).toNat = t % 255 + 1 := by
  induction t with
  | zero => rfl
  | succ t ih =>
      rw [sessionOf, sessionAfter_toNat, ih]
      split <;> omega

/-- **Transfers with the same session** are at least 255 apart. -/
theorem session_near {a b : Nat} (hpos : 0 < a) (hle : a ≤ b) (hnear : b - a < 255)
    (h : sessionOf a = sessionOf b) : a = b := by
  obtain ⟨a, rfl⟩ := Nat.exists_eq_add_of_lt hpos
  obtain ⟨b, rfl⟩ := Nat.exists_eq_add_of_lt (Nat.lt_of_lt_of_le hpos hle)
  have hmod := congrArg UInt8.toNat h
  simp only [Nat.zero_add, sessionOf_toNat] at hmod
  have hab : a = b := cyclic_near (p := 255) (by omega) (by omega) (by omega)
  rw [hab]

/-! ## What is in flight -/

variable {D : Type} {disp : Dispatcher D} {client : UInt8}

/-- The requests that may still be answered: those to be handled, and those whose reply waits. -/
def tags (n : Network D) : List Request := n.flying ++ n.posted.filterMap Posted.request

theorem tags_send (n : Network D) (f : Frame) :
    (tags (n.send f)).Perm (n.request f :: tags n) := by
  simp only [tags, Network.send, List.append_assoc, List.singleton_append]
  exact List.perm_middle

theorem tags_other (n : Network D) (f : Frame) : tags (n.other disp client f) = tags n := by
  have hnone : ∀ fs : List Frame, (fs.map Posted.traffic).filterMap Posted.request = [] := by
    intro fs
    rw [List.filterMap_map]
    exact List.filterMap_eq_nil_iff.mpr fun _ _ => rfl
  rw [Network.other]
  split
  · simp only [tags, List.filterMap_append, List.filterMap_cons, Posted.request, hnone,
      List.append_nil]
  · rfl

/-- A request that is handled is answered at most once. -/
theorem handle_length (servers : Servers D) (f : Frame) :
    (servers.handle disp f).1.length ≤ 1 := by
  rw [Servers.handle]
  split
  · exact Nat.zero_le _
  · exact (handled_replied disp _ f).2.1

theorem tags_hear (n : Network D) (i : Nat) : (tags (n.hear disp i)).Subperm (tags n) := by
  rw [Network.hear]
  cases hr : n.flying[i]? with
  | none => exact List.Subperm.refl _
  | some r =>
      have hreply : ∀ fs : List Frame, fs.length ≤ 1 → List.Sublist
          ((fs.map (Posted.reply (r.frame.byte 0) r)).filterMap Posted.request) [r] := by
        intro fs hfs
        match fs, hfs with
        | [], _ => exact List.nil_sublist _
        | [f], _ => exact List.Sublist.refl _
      have hnew := hreply _ (show (n.servers.handle disp r.frame).1.length ≤ 1 from handle_length n.servers r.frame)
      simp only [tags, List.filterMap_append]
      rw [← List.append_assoc]
      refine (List.perm_append_comm.subperm).trans ?_
      refine (hnew.append_right _).subperm.trans ?_
      exact ((pick_perm hr).symm.append_right _).subperm

theorem tags_without {n : Network D} {i : Nat} {p : Posted} (hp : n.posted[i]? = some p) :
    (tags n).Perm (p.request.toList ++ tags (n.without i)) := by
  have hmap := (pick_perm hp).filterMap Posted.request
  have hcons : (p :: n.posted.eraseIdx i).filterMap Posted.request
      = p.request.toList ++ (n.posted.eraseIdx i).filterMap Posted.request := by
    rw [List.filterMap_cons]
    cases p.request <;> rfl
  rw [hcons] at hmap
  refine (hmap.append_left _).trans ?_
  rw [tags, Network.without, ← List.append_assoc, ← List.append_assoc]
  exact List.perm_append_comm.append_right _

/-! ## What every frame in flight is -/

/-- A request that the client sent in one of its first transfers. -/
structure Asked (client : UInt8) (transfers : Nat) (r : Request) : Prop where
  begun : 0 < r.transfer
  past : r.transfer ≤ transfers
  frame : ∃ target, Between client target (sessionOf r.transfer) true r.frame

/-- The reply of the server at this node to this very request. -/
def ReplyTo (disp : Dispatcher D) (node : UInt8) (r : Request) (p : Posted) : Prop :=
  ∃ (s : UsdoServer D) (f : Frame), s.nodeId = node ∧ p = .reply node r f ∧
    f ∈ (handled disp s r.frame).sent

/-- A frame that the client skips, whatever it waits for. -/
def Skipped (client : UInt8) (p : Posted) : Prop :=
  p.request = none ∧ ∀ e, responsePdu client e p.frame = none

/-- The invariant of the bus. -/
structure Sound (disp : Dispatcher D) (client : UInt8) (n : Network D) : Prop where
  session : n.usdoSession = sessionOf n.transfers
  asked : ∀ r ∈ tags n, Asked client n.transfers r
  posted : ∀ p ∈ n.posted, (∃ r, ReplyTo disp (r.frame.byte 0) r p) ∨ Skipped client p

theorem responsePdu_some {e : Expected} {f : Frame} {pdu : Pdu}
    (h : responsePdu client e f = some pdu) :
    decode f = .ok pdu ∧ (canIdSplit f.idValue).2 = .response ∧ pdu.srcNode = e.node ∧
      pdu.dstNode = client ∧ pdu.session = e.session := by
  rw [responsePdu] at h
  cases hdec : decode f with
  | error err => rw [hdec] at h; exact nomatch h
  | ok pdu' =>
      rw [hdec] at h
      simp only [Option.ite_none_right_eq_some, Option.some.injEq] at h
      obtain ⟨⟨hkind, hsrc, hdst, hsession, -⟩, rfl⟩ := h
      exact ⟨rfl, hkind, hsrc, hdst, hsession⟩

theorem handle_sent {servers : Servers D} {f g : Frame} (h : g ∈ (servers.handle disp f).1) :
    ∃ s : UsdoServer D, s.nodeId = f.byte 0 ∧ g ∈ (handled disp s f).sent := by
  rw [Servers.handle] at h
  split at h
  · exact nomatch h
  · rename_i s _
    exact ⟨s.1, s.2, h⟩

/-- An honest node's frame is skipped, and so is what a server answers it. -/
theorem honest_skipped {f g : Frame} (hhonest : honest client f = true) :
    Skipped client (.traffic f) ∧
      ∀ s : UsdoServer D, g ∈ (handled disp s f).sent → Skipped client (.traffic g) := by
  refine ⟨⟨rfl, fun e => ?_⟩, fun s hg => ⟨rfl, fun e => ?_⟩⟩
  · by_contra hsome
    obtain ⟨pdu, hpdu⟩ := Option.ne_none_iff_exists'.mp hsome
    obtain ⟨hdec, hkind, -, hdst, -⟩ := responsePdu_some hpdu
    have hkind' : (canIdSplit f.idValue).2 = .response := hkind
    have hdec' : decode f = .ok pdu := hdec
    rw [honest, hdec'] at hhonest
    simp [hkind', hdst] at hhonest
  · by_contra hsome
    obtain ⟨pdu, hpdu⟩ := Option.ne_none_iff_exists'.mp hsome
    obtain ⟨hdec, -, -, hdst, -⟩ := responsePdu_some hpdu
    obtain ⟨req, hreq, hbetween⟩ := (handled_replied disp s f).2.2 g hg
    have hsrc : req.srcNode = client := by
      rw [← hdst]
      exact ((hbetween.decoded hdec).2.1).symm
    obtain ⟨hdec', -, -⟩ := requestPdu_iff.mp hreq
    rw [honest, hdec'] at hhonest
    simp [hsrc] at hhonest

/-! ## What the bus does while the client waits -/

/-- The bus moved on: nothing of the client's was added, and what it counts is as before. -/
structure Meanwhile (disp : Dispatcher D) (client : UInt8) (n n' : Network D) : Prop where
  sound : Sound disp client n → Sound disp client n'
  tags : (tags n').Subperm (tags n)
  transfers : n'.transfers = n.transfers
  requests : n'.requests = n.requests
  log : n'.log = n.log

theorem Meanwhile.refl (n : Network D) : Meanwhile disp client n n :=
  ⟨id, List.Subperm.refl _, rfl, rfl, rfl⟩

/-- A move that keeps the counters and only loses tags is sound when the frames it adds are. -/
theorem meanwhile_of {n n' : Network D} (htags : (tags n').Subperm (tags n))
    (hsession : n'.usdoSession = n.usdoSession) (htransfers : n'.transfers = n.transfers)
    (hrequests : n'.requests = n.requests) (hlog : n'.log = n.log)
    (hposted : ∀ p ∈ n'.posted,
      p ∈ n.posted ∨ (∃ r, ReplyTo disp (r.frame.byte 0) r p) ∨ Skipped client p) :
    Meanwhile disp client n n' := by
  refine ⟨fun h => ⟨?_, fun r hr => ?_, fun p hp => ?_⟩, htags, htransfers, hrequests, hlog⟩
  · rw [hsession, htransfers]
    exact h.session
  · obtain ⟨hbegun, hpast, hframe⟩ := h.asked r (htags.subset hr)
    exact ⟨hbegun, by rwa [htransfers], hframe⟩
  · exact (hposted p hp).elim (h.posted p) id

theorem hear_meanwhile (n : Network D) (i : Nat) : Meanwhile disp client n (n.hear disp i) := by
  cases hr : n.flying[i]? with
  | none =>
      have hsame : n.hear disp i = n := by rw [Network.hear, hr]
      rw [hsame]
      exact .refl n
  | some r =>
      have hhear : n.hear disp i = { n with
          servers := (n.servers.handle disp r.frame).2
          flying := n.flying.eraseIdx i
          posted := n.posted
            ++ (n.servers.handle disp r.frame).1.map (.reply (r.frame.byte 0) r) } := by
        rw [Network.hear, hr]
      have htags : (tags (n.hear disp i)).Subperm (tags n) := tags_hear n i
      rw [hhear] at htags ⊢
      refine meanwhile_of htags rfl rfl rfl rfl fun p hp => ?_
      refine (List.mem_append.mp hp).imp_right fun hnew => .inl ?_
      obtain ⟨g, hg, rfl⟩ := List.mem_map.mp hnew
      obtain ⟨s, hnode, hsent⟩ := handle_sent hg
      exact ⟨r, s, g, hnode, rfl, hsent⟩

theorem other_meanwhile (n : Network D) (f : Frame) :
    Meanwhile disp client n (n.other disp client f) := by
  by_cases hhonest : honest client f = true
  · have hother : n.other disp client f = { n with
        servers := (n.servers.handle disp f).2
        posted := n.posted ++ .traffic f :: (n.servers.handle disp f).1.map .traffic } :=
      if_pos hhonest
    have htags : tags (n.other disp client f) = tags n := tags_other n f
    rw [hother] at htags ⊢
    refine meanwhile_of (htags ▸ List.Subperm.refl _) rfl rfl rfl rfl fun p hp => ?_
    refine (List.mem_append.mp hp).imp_right fun hnew => .inr ?_
    obtain rfl | hnew := List.mem_cons.mp hnew
    · exact ((honest_skipped hhonest : Skipped client (.traffic f) ∧ ∀ s : UsdoServer D,
        f ∈ (handled disp s f).sent → Skipped client (.traffic f))).1
    · obtain ⟨g, hg, rfl⟩ := List.mem_map.mp hnew
      obtain ⟨s, -, hsent⟩ := handle_sent hg
      exact (honest_skipped hhonest).2 s hsent
  · have hsame : n.other disp client f = n := if_neg hhonest
    rw [hsame]
    exact .refl n

theorem without_meanwhile {n : Network D} {i : Nat} {p : Posted} (hp : n.posted[i]? = some p) :
    Meanwhile disp client n (n.without i) :=
  meanwhile_of ((List.sublist_append_right _ _).subperm.trans (tags_without hp).symm.subperm)
    rfl rfl rfl rfl fun _ hq => .inl (List.mem_of_mem_eraseIdx hq)

/-! ## The frame that is taken -/

/-- A call that succeeded, or that returned the abort code it received. -/
def answered : Option SecpError → Bool
  | none => true
  | some (.abort _) => true
  | some _ => false

/-- **A frame taken is the reply.**  The session says that the request it answers is of this
    transfer, and of this transfer only `r` is in flight. -/
theorem taken_replies {n : Network D} {r : Request} {e : Expected} {target : UInt8} {i : Nat}
    {p : Posted} {pdu : Pdu} (hsound : Sound disp client n)
    (hasks : Asks client target n.usdoSession r.frame e)
    (hawaits : Awaits Request.transfer n.transfers r (tags n)) (hp : n.posted[i]? = some p)
    (htimely : n.timely p = true) (hpdu : responsePdu client e p.frame = some pdu) :
    ReplyTo disp target r p ∧ Clear Request.transfer n.transfers (tags (n.without i)) := by
  obtain ⟨hdec, -, -, -, hsession⟩ := responsePdu_some hpdu
  obtain ⟨q, s, f, hnode, rfl, hsent⟩ | hskip := hsound.posted p (List.mem_of_getElem? hp)
  swap
  · rw [hskip.2 e] at hpdu
    cases hpdu
  have hperm : (tags n).Perm (q :: tags (n.without i)) := tags_without hp
  obtain ⟨hbegun, hpast, peer, hframe⟩ := hsound.asked q (hperm.symm.subset List.mem_cons_self)
  -- the server answered in the session of the request it answered
  obtain ⟨req, hreq, hbetween⟩ := (handled_replied disp s q.frame).2.2 f hsent
  have hreqDec : decode q.frame = .ok req := (requestPdu_iff.mp hreq).1
  have hsame : sessionOf q.transfer = sessionOf n.transfers := by
    have hreply := (hbetween.decoded hdec).2.2
    rw [(hframe.decoded hreqDec).2.2] at hreply
    rw [← hsound.session, ← hasks.session, ← hsession, hreply]
  have hnear : n.transfers - q.transfer < 255 := by
    simpa only [Network.timely, decide_eq_true_eq] using htimely
  obtain ⟨rfl, hclear⟩ := hawaits.answered (session_near hbegun hpast hnear hsame) hperm
  have hto : q.frame.byte 0 = target := hasks.frame.receiver
  rw [hto] at hnode ⊢
  exact ⟨⟨s, f, hnode, rfl, hsent⟩, hclear⟩

/-- How a round trip ends: its exchange is logged, and a response that was taken is the reply,
    after which nothing of the transfer is in flight. -/
structure Ended (disp : Dispatcher D) (client target : UInt8) (n : Network D) (r : Request)
    (failed : Option SecpError) (taken : Option Posted) (n' : Network D) : Prop where
  sound : Sound disp client n'
  transfers : n'.transfers = n.transfers
  requests : n'.requests = n.requests
  log : n'.log = n.log ++ [⟨r, taken⟩]
  response : (taken = none ∧ answered failed = false) ∨
    ∃ p, taken = some p ∧ ReplyTo disp target r p ∧ Clear Request.transfer n'.transfers (tags n')

theorem ended_without {n : Network D} {r : Request} {target : UInt8} {e : SecpError}
    (hsound : Sound disp client n) (he : answered (some e) = false) (script : List BusEvent) :
    Ended disp client target n r (some e) none (n.ended r none script) :=
  ⟨⟨hsound.session, hsound.asked, hsound.posted⟩, rfl, rfl, rfl, .inl ⟨rfl, he⟩⟩

/-- The receive loop, by induction on what the bus does. -/
theorem receive_ended {r : Request} {e : Expected} {target : UInt8} (script : List BusEvent) :
    ∀ n : Network D, Sound disp client n → Asks client target n.usdoSession r.frame e →
      Awaits Request.transfer n.transfers r (tags n) →
      ∃ taken, Ended disp client target n r (failure (receive disp client r e script n).1) taken
        (receive disp client r e script n).2 := by
  induction script with
  | nil => exact fun n hsound _ _ => ⟨none, ended_without hsound rfl []⟩
  | cons ev script ih =>
      intro n hsound hasks hawaits
      -- the bus moves on and the client waits for the same response
      have hwait : ∀ n', Meanwhile disp client n n' → n'.usdoSession = n.usdoSession →
          ∃ taken, Ended disp client target n r (failure (receive disp client r e script n').1)
            taken (receive disp client r e script n').2 := by
        intro n' hmean hsession
        have hawaits' : Awaits Request.transfer n'.transfers r (tags n') := by
          rw [hmean.transfers]
          exact hawaits.mono hmean.tags
        obtain ⟨taken, hsound', htransfers, hrequests, hlog, hresponse⟩ :=
          ih n' (hmean.sound hsound) (by rwa [hsession]) hawaits'
        exact ⟨taken, hsound', htransfers.trans hmean.transfers,
          hrequests.trans hmean.requests, by rw [hlog, hmean.log], hresponse⟩
      cases ev with
      | timeout => exact ⟨none, ended_without hsound rfl script⟩
      | closed => exact ⟨none, ended_without hsound rfl script⟩
      | hear i => exact hwait _ (hear_meanwhile n i) (by rw [Network.hear]; split <;> rfl)
      | other f => exact hwait _ (other_meanwhile n f) (by rw [Network.other]; split <;> rfl)
      | arrive i =>
          rw [receive]
          cases hp : n.posted[i]? with
          | none => exact hwait n (.refl n) rfl
          | some p =>
              dsimp only
              by_cases htimely : n.timely p = true
              · rw [if_pos htimely]
                have hmean : Meanwhile disp client n (n.without i) := without_meanwhile hp
                cases hpdu : responsePdu client e p.frame with
                | none => exact hwait _ hmean rfl
                | some pdu =>
                    obtain ⟨hreply, hclear⟩ :=
                      taken_replies hsound hasks hawaits hp htimely hpdu
                    have hsound' := hmean.sound hsound
                    exact ⟨some p, ⟨hsound'.session, hsound'.asked, hsound'.posted⟩, rfl, rfl,
                      rfl, .inr ⟨p, rfl, hreply, hclear⟩⟩
              · rw [if_neg htimely]
                exact hwait n (.refl n) rfl

/-! ## One call -/

/-- What a call that began at `n₀` did so far: each request went out once, in order, and when
    the call succeeds or returns an abort code each was answered by its own reply. -/
structure Matched (disp : Dispatcher D) (client target : UInt8) (n₀ : Network D)
    (failed : Option SecpError) (n : Network D) : Prop where
  sound : Sound disp client n
  exchanges : ∃ xs, n.log = n₀.log ++ xs ∧
    xs.map (fun x => x.request.number) = List.range' n₀.requests xs.length ∧
    n.requests = n₀.requests + xs.length ∧
    (answered failed = true → ∀ x ∈ xs, ∃ p, x.taken = some p ∧ ReplyTo disp target x.request p)

/-- And between two requests of transfer `t` nothing of it is in flight. -/
structure Going (disp : Dispatcher D) (client target : UInt8) (n₀ : Network D) (t : Nat)
    (failed : Option SecpError) (n : Network D) : Prop where
  matched : Matched disp client target n₀ failed n
  current : failed = none → n.transfers = t ∧ Clear Request.transfer t (tags n)

theorem send_sound {n : Network D} {f : Frame} {target : UInt8} (hsound : Sound disp client n)
    (hpos : 0 < n.transfers) (hf : Between client target (sessionOf n.transfers) true f) :
    Sound disp client (n.send f) := by
  refine ⟨hsound.session, fun r hr => ?_, hsound.posted⟩
  obtain rfl | hold := List.mem_cons.mp ((tags_send n f).subset hr)
  · exact ⟨hpos, Nat.le_refl _, target, hf⟩
  · exact hsound.asked r hold

/-- A request that was answered, or that ended the call, is one exchange more. -/
theorem Matched.exchange {n₀ n n' : Network D} {target : UInt8} {f : Frame}
    {failed : Option SecpError} {taken : Option Posted}
    (hmatched : Matched disp client target n₀ none n)
    (hended : Ended disp client target (n.send f) (n.request f) failed taken n') :
    Matched disp client target n₀ failed n' := by
  obtain ⟨-, xs, hlog, hnumbers, hrequests, hall⟩ := hmatched
  refine ⟨hended.sound, xs ++ [⟨n.request f, taken⟩], ?_, ?_, ?_, fun hyes x hx => ?_⟩
  · have hsent : (n.send f).log = n.log := rfl
    rw [hended.log, hsent, hlog, List.append_assoc]
  · have hnumber : (n.request f).number = n₀.requests + xs.length := hrequests
    rw [List.map_append, hnumbers, List.length_append, List.length_singleton,
      List.range'_concat, List.map_singleton, hnumber, Nat.one_mul]
  · have hsent : (n.send f).requests = n.requests + 1 := rfl
    rw [hended.requests, hsent, hrequests, List.length_append, List.length_singleton,
      Nat.add_assoc]
  · obtain hold | hnew := List.mem_append.mp hx
    · exact hall rfl x hold
    · rw [List.mem_singleton] at hnew
      obtain ⟨-, hno⟩ | ⟨p, htaken, hreply, -⟩ := hended.response
      · rw [hyes] at hno
        exact nomatch hno
      · rw [hnew]
        exact ⟨p, htaken, hreply⟩

/-- **One request of the transfer.** -/
theorem roundTrip_going {n₀ n : Network D} {target : UInt8} {t : Nat} {f : Frame} {e : Expected}
    (hpos : 0 < t) (hasks : Asks client target (sessionOf t) f e)
    (hgoing : Going disp client target n₀ t none n) :
    wp (roundTrip disp client f e)
      (fun r n' => Going disp client target n₀ t (failure r) n') n := by
  obtain ⟨hmatched, hcurrent⟩ := hgoing
  obtain ⟨ht, hclear⟩ := hcurrent rfl
  subst ht
  have hreceive : ∀ script, wp (fun n => receive disp client (n.request f) e script
      (n.send f)) (fun r n' => Going disp client target n₀ n.transfers (failure r) n') n := by
    intro script
    have hsession : (n.send f).usdoSession = sessionOf n.transfers := hmatched.sound.session
    obtain ⟨taken, hended⟩ : ∃ taken, Ended disp client target (n.send f) (n.request f)
        (failure (receive disp client (n.request f) e script (n.send f)).1) taken
        (receive disp client (n.request f) e script (n.send f)).2 :=
      receive_ended script (n.send f) (send_sound hmatched.sound hpos hasks.frame)
      (by rw [hsession]; exact hasks) (hclear.ask (tags_send n f).subperm)
    refine ⟨hmatched.exchange hended, fun hok => ?_⟩
    obtain ⟨-, hno⟩ | ⟨p, -, -, hafter⟩ := hended.response
    · rw [hok] at hno
      exact nomatch hno
    · have htransfers : _ = n.transfers := hended.transfers
      rw [htransfers] at hafter
      exact ⟨htransfers, hafter⟩
  unfold wp roundTrip
  split
  · obtain ⟨hsound, hxs⟩ := hmatched
    refine ⟨⟨⟨hsound.session, hsound.asked, hsound.posted⟩, ?_⟩, nofun⟩
    obtain ⟨xs, hlog, hnumbers, hrequests, -⟩ := hxs
    exact ⟨xs, hlog, hnumbers, hrequests, nofun⟩
  · exact hreceive _

/-- A transfer keeps what its requests keep. -/
theorem going_kept (n₀ : Network D) (target : UInt8) {t : Nat} (hpos : 0 < t) :
    Kept (busCarrier disp client) client target (sessionOf t)
      (Going disp client target n₀ t) where
  roundTrip := fun _ _ _ hasks hgoing => roundTrip_going hpos hasks hgoing
  refused := by
    rintro e n he ⟨⟨hsound, xs, hlog, hnumbers, hrequests, -⟩, -⟩
    have hno : answered (some e) = false := by obtain rfl | rfl := he <;> rfl
    refine ⟨⟨hsound, xs, hlog, hnumbers, hrequests, fun hyes => ?_⟩, nofun⟩
    rw [hno] at hyes
    exact nomatch hyes

theorem matched_start {n : Network D} (hsound : Sound disp client n) (target : UInt8)
    (failed : Option SecpError) : Matched disp client target n failed n :=
  ⟨hsound, [], (List.append_nil _).symm, rfl, rfl, fun _ => nofun⟩

/-- A session number begins the next transfer, of which nothing is in flight. -/
theorem call_begins {n : Network D} (hsound : Sound disp client n) (target : UInt8) :
    Begins (busCarrier disp client) client target (Matched disp client target n) n := by
  have hnext : sessionAfter n.usdoSession = sessionOf (n.transfers + 1) := by
    rw [hsound.session]
    rfl
  have hsound' : Sound disp client (nextSession n).2 := by
    refine ⟨hnext, fun r hr => ?_, hsound.posted⟩
    obtain ⟨hbegun, hpast, hframe⟩ := hsound.asked r hr
    exact ⟨hbegun, Nat.le_succ_of_le hpast, hframe⟩
  show ∃ J', Kept _ client target (sessionAfter n.usdoSession) J' ∧ J' none (nextSession n).2 ∧ _
  rw [hnext]
  refine ⟨Going disp client target n (n.transfers + 1), going_kept n target (Nat.succ_pos _),
    ⟨⟨hsound', [], (List.append_nil _).symm, rfl, rfl, fun _ => nofun⟩, fun _ => ⟨rfl, ?_⟩⟩,
    fun _ _ h => h.matched⟩
  exact Clear.next fun q hq => (hsound.asked q hq).past

/-- **One call**, whatever the bus does. -/
theorem perform_matched {n : Network D} (hsound : Sound disp client n) (c : TransferCall) :
    wp (perform disp client c)
      (fun r n' => Matched disp client c.target n (failure r) n') n := by
  cases c with
  | read deviceId dataId body cap =>
      exact transportRead_rule dataId body cap (matched_start hsound _ _) (call_begins hsound _)
  | write deviceId dataId body =>
      rw [perform, wp_bind]
      refine wp_mono (transportWrite_rule dataId body (fun _ _ => matched_start hsound _ _)
        (call_begins hsound _)) fun r n' h => ?_
      cases r <;> exact h

theorem sound_run (disp : Dispatcher D) (client : UInt8) (servers : Servers D)
    (script : List BusEvent) (calls : List TransferCall) :
    Sound disp client (run (callStep disp client) (boot servers script) calls) := by
  have hboot : Sound disp client (boot servers script) := ⟨rfl, nofun, nofun⟩
  have hstep : ∀ (n : Network D) c, Sound disp client n → True →
      Sound disp client (callStep disp client n c) := by
    intro n c hsound _
    exact (perform_matched hsound c : Matched ..).sound
  exact run_induction hstep hboot (along_of_forall (fun _ _ => trivial) _ _)

/-- A server program that replies what it was sent. -/
def echo : Dispatcher Unit where
  serve := fun d client dataId body => ([⟨client, dataId, abortNone, body⟩], d)
  one := fun _ _ _ body => ⟨abortNone, body, rfl⟩

/-- Server 1, alone. -/
def sampleServers : Servers Unit := fun node =>
  if node = 1 then some ⟨{ nodeId := node, device := () }, rfl⟩ else none

/-- A read that times out, then one of the same object whose reply comes after the late one. -/
def sampleReads : Network Unit :=
  run (callStep echo 2)
    (boot sampleServers [.timeout, .hear 0, .hear 0, .arrive 0, .arrive 0])
    [.read 1 0x20000000 [7] 56, .read 1 0x20000000 [8] 56]

/-- The late reply is skipped. -/
example : sampleReads.log.map (fun x => (x.request.number, x.taken.bind Posted.request |>.map
    Request.number)) = [(0, none), (1, some 1)] := by decide +kernel

end SofaReplyMatching
