import Sofa.UsdoServer
import Sofa.Lib.Machine

/-! # Reassembly of segmented downloads

    One slot takes the segments of all peers.  The server runs over the frames in the order
    they arrive, whoever sent them and whether or not they decode; beside it stands the list
    of the requests it accepted.

    The open slot always holds the data of every segment that its owner sent since the
    owner's last initiate (`slot_held`), because whatever does not continue the transfer
    ends it.  The headline is **`reassembly`**: the body of a segmented download that is
    dispatched is exactly that data, of the length declared and for the object addressed by
    that initiate, and neither slot ever runs past its total. -/

namespace SofaReassembly

open SofaConfig SofaDevice SofaUsdo SofaUsdoServer FixedBuffer StateWp Machine

variable {D : Type}

/-! ## The server over the frames of all peers -/

/-- The server, and the requests it accepted so far. -/
structure Bus (D : Type) where
  server : UsdoServer D
  received : List Pdu := []

/-- A server that was just started: the statics are zero. -/
def boot (nodeId : UInt8) (device : D) : Bus D :=
  { server := { nodeId := nodeId, device := device } }

/-- What `run_dispatch_loop` does with one frame. -/
def handled (disp : Dispatcher D) (s : UsdoServer D) (f : Frame) : UsdoWorld D :=
  (handleFrame disp f { server := s }).2

/-- One frame. -/
def busStep (disp : Dispatcher D) (b : Bus D) (f : Frame) : Bus D where
  server := (handled disp b.server f).server
  received := b.received ++ (requestPdu b.server.nodeId f).toList

/-! ## Segments and initiates -/

/-- An initiate of this source and session. -/
def Initiate (src session : UInt8) (p : Pdu) : Prop :=
  p.cmd = cmdDownloadInitReq ∧ p.srcNode = src ∧ p.session = session

/-- A segment or an end of this source and session. -/
def segmentOf (src session : UInt8) (p : Pdu) : Bool :=
  (p.cmd == cmdDownloadSegReq || p.cmd == cmdDownloadEndReq) && p.srcNode == src
    && p.session == session

/-- The data of the segments of this source and session, in order. -/
def segmentData (src session : UInt8) (ps : List Pdu) : List UInt8 :=
  (ps.filter (segmentOf src session)).flatMap Pdu.data

/-- `init` is the latest initiate of the source and session among the requests received, and
    `data` what came in segments after it. -/
structure Since (received : List Pdu) (src session : UInt8) (init : Pdu) (data : List UInt8) :
    Prop where
  initiate : Initiate src session init
  latest : ∃ before after, received = before ++ init :: after ∧
    (∀ p ∈ after, ¬ Initiate src session p) ∧ data = segmentData src session after

/-- A segmented download dispatched as it was sent. -/
def Assembled (received : List Pdu) (c : UsdoCall) : Prop :=
  ∃ init, Since received c.src c.session init c.body ∧
    c.body.length = init.totalSize.toNat ∧
    c.dataId = dataIdFromIndexSub init.index init.subindex

theorem segmentData_append (src session : UInt8) (ps : List Pdu) (p : Pdu) :
    segmentData src session (ps ++ [p])
      = segmentData src session ps ++ if segmentOf src session p then p.data else [] := by
  rw [segmentData, segmentData, List.filter_append, List.flatMap_append]
  by_cases h : segmentOf src session p = true
  · rw [if_pos h, List.filter_cons_of_pos h]
    simp
  · rw [if_neg h, List.filter_cons_of_neg h]
    simp

/-- An initiate starts over. -/
theorem since_initiate (received : List Pdu) (p : Pdu) (h : p.cmd = cmdDownloadInitReq) :
    Since (received ++ [p]) p.srcNode p.session p [] :=
  ⟨⟨h, rfl, rfl⟩, received, [], rfl, by simp, rfl⟩

/-- A request that is no initiate of the source and session adds its data when it is a
    segment of theirs. -/
theorem Since.request {received : List Pdu} {src session : UInt8} {init p : Pdu}
    {data : List UInt8} (h : Since received src session init data)
    (hp : ¬ Initiate src session p) :
    Since (received ++ [p]) src session init
      (data ++ if segmentOf src session p then p.data else []) := by
  obtain ⟨hinit, before, after, rfl, hlatest, rfl⟩ := h
  refine ⟨hinit, before, after ++ [p], by simp, ?_, (segmentData_append ..).symm⟩
  intro q hq
  rcases List.mem_append.mp hq with hq | hq
  · exact hlatest q hq
  · rw [List.mem_singleton.mp hq]
    exact hp

/-- Requests other than initiates, segments and ends leave a transfer as it is. -/
theorem Since.other {received : List Pdu} {src session : UInt8} {init p : Pdu}
    {data : List UInt8} (h : Since received src session init data)
    (hinit : p.cmd ≠ cmdDownloadInitReq) (hseg : p.cmd ≠ cmdDownloadSegReq)
    (hend : p.cmd ≠ cmdDownloadEndReq) : Since (received ++ [p]) src session init data := by
  have hno : segmentOf src session p = false := by
    simp [segmentOf, hseg, hend]
  have hnext := h.request fun hi => hinit hi.1
  rwa [hno, if_neg Bool.false_ne_true, List.append_nil] at hnext

/-- A segment of the source and session is appended. -/
theorem Since.segment {received : List Pdu} {src session : UInt8} {init p : Pdu}
    {data : List UInt8} (h : Since received src session init data)
    (hcmd : p.cmd = cmdDownloadSegReq ∨ p.cmd = cmdDownloadEndReq)
    (hsrc : p.srcNode = src) (hsession : p.session = session) :
    Since (received ++ [p]) src session init (data ++ p.data) := by
  have hyes : segmentOf src session p = true := by
    obtain hc | hc := hcmd <;> simp [segmentOf, hc, hsrc, hsession]
  have hno : ¬ Initiate src session p := by
    rintro ⟨hi, -⟩
    rw [hi] at hcmd
    exact absurd hcmd (by decide)
  have hnext := h.request hno
  rwa [if_pos hyes] at hnext

/-! ## The invariant of the two slots -/

/-- What the open download slot holds. -/
structure Held (received : List Pdu) (slot : SegDownload) : Prop where
  owner : ∃ init, Since received slot.src slot.session init (load slot.buf 0 slot.received) ∧
    slot.index = init.index ∧ slot.sub = init.subindex ∧ slot.total = init.totalSize.toNat
  within : slot.received ≤ slot.total
  fits : slot.total ≤ usdoSegBodyMax

/-- Both slots between frames. -/
structure SlotInv (b : Bus D) : Prop where
  download : b.server.segdl.active = true → Held b.received b.server.segdl
  upload : b.server.segul.active = true →
    b.server.segul.sent ≤ b.server.segul.total ∧ b.server.segul.total ≤ usdoSegBodyMax

/-- A segment that fits extends what the slot holds. -/
theorem Held.fed {received : List Pdu} {slot : SegDownload} {p : Pdu} (h : Held received slot)
    (hcmd : p.cmd = cmdDownloadSegReq ∨ p.cmd = cmdDownloadEndReq)
    (howner : slot.matches p = true) (hroom : slot.received + p.data.length ≤ slot.total) :
    Held (received ++ [p]) (slot.fed p) := by
  obtain ⟨⟨init, hsince, hobject⟩, -, hfits⟩ := h
  simp only [SegDownload.matches, Bool.and_eq_true, beq_iff_eq] at howner
  have hload : load (store slot.buf slot.received p.data) 0 (slot.received + p.data.length)
      = load slot.buf 0 slot.received ++ p.data := load_store _ (hroom.trans hfits)
  refine ⟨⟨init, ?_, hobject⟩, hroom, hfits⟩
  show Since _ _ _ _ (load (store slot.buf slot.received p.data) 0 (slot.received + p.data.length))
  rw [hload]
  exact hsince.segment hcmd howner.1.2 howner.2

/-- A reply keeps the upload within its total. -/
theorem parked_within {slot slot' : SegUpload} (h : Parked slot slot')
    (hslot : slot.active = true → slot.sent ≤ slot.total ∧ slot.total ≤ usdoSegBodyMax) :
    slot'.active = true → slot'.sent ≤ slot'.total ∧ slot'.total ≤ usdoSegBodyMax := by
  intro hactive
  cases h with
  | kept => exact hslot hactive
  | parked fits => exact ⟨Nat.zero_le _, fits⟩

/-- **The step**: one request keeps the slots, and dispatches no segmented download but the
    one its initiate announced. -/
theorem handled_slots {s s' : UsdoServer D} {received : List Pdu} {p : Pdu}
    {calls : List UsdoCall} (h : Handled p s s' calls) (hinv : SlotInv ⟨s, received⟩) :
    SlotInv ⟨s', received ++ [p]⟩ ∧
      ∀ c ∈ calls, c.segmented = true → Assembled (received ++ [p]) c := by
  obtain ⟨hdown, hup⟩ := hinv
  cases h with
  | dropped => exact ⟨⟨nofun, nofun⟩, by simp⟩
  | opened cmd fits =>
      refine ⟨⟨fun _ => ⟨⟨p, ?_, rfl, rfl, rfl⟩, Nat.zero_le _, fits⟩, hup⟩, by simp⟩
      show Since _ _ _ _ (load _ 0 0)
      rw [load_zero]
      exact since_initiate received p cmd
  | segment cmd owner counter room =>
      have hactive : s.segdl.active = true := by
        simp only [SegDownload.matches, Bool.and_eq_true] at owner
        exact owner.1.1
      have hfed := (hdown hactive).fed (.inl cmd) owner room
      exact ⟨⟨fun _ => ⟨hfed.owner, hfed.within, hfed.fits⟩, hup⟩, by simp⟩
  | complete cmd owner full reply =>
      have hactive : s.segdl.active = true := by
        simp only [SegDownload.matches, Bool.and_eq_true] at owner
        exact owner.1.1
      have hfed := (hdown hactive).fed (.inr cmd) owner (Nat.le_of_eq full)
      refine ⟨⟨nofun, parked_within reply hup⟩, ?_⟩
      intro c hc _
      rw [List.mem_singleton.mp hc]
      obtain ⟨init, hsince, hindex, hsub, htotal⟩ := hfed.owner
      have hall : (s.segdl.fed p).received = s.segdl.total := full
      rw [hall] at hsince
      refine ⟨init, hsince, ?_, congrArg₂ dataIdFromIndexSub hindex hsub⟩
      have hlen : (load (s.segdl.fed p).buf 0 s.segdl.total).length = s.segdl.total :=
        length_load _ (by rw [Nat.zero_add]; exact hfed.fits)
      exact hlen.trans htotal
  | upload cmd served =>
      have hother : ∀ slot, Held received slot → Held (received ++ [p]) slot := by
        rintro slot ⟨⟨init, hsince, hobject⟩, hwithin, hfits⟩
        refine ⟨⟨init, hsince.other ?_ ?_ ?_, hobject⟩, hwithin, hfits⟩ <;> rw [cmd] <;> decide
      refine ⟨?_, by simp⟩
      cases served with
      | dropped => exact ⟨nofun, nofun⟩
      | segment more =>
          refine ⟨fun hactive => hother _ (hdown hactive), fun hactive => ?_⟩
          obtain ⟨hsent, hfits⟩ := hup hactive
          refine ⟨?_, hfits⟩
          show s.segul.sent + 60 ≤ s.segul.total
          have hmore : s.segul.total - s.segul.sent > 60 := more
          omega
      | last => exact ⟨fun hactive => hother _ (hdown hactive), nofun⟩
  | single init seg end' reply =>
      refine ⟨⟨fun hactive => ?_, parked_within reply hup⟩, by simp⟩
      obtain ⟨⟨init', hsince, hobject⟩, hwithin, hfits⟩ := hdown hactive
      exact ⟨⟨init', hsince.other init seg end', hobject⟩, hwithin, hfits⟩

theorem handled_some {disp : Dispatcher D} {s : UsdoServer D} {f : Frame} {p : Pdu}
    (h : requestPdu s.nodeId f = some p) :
    Handled p s (handled disp s f).server (handled disp s f).calls := by
  have hrun : handleFrame disp f { server := s } = handlePdu disp p { server := s } :=
    handleFrame_some h
  obtain ⟨calls, hcalls, hhandled⟩ := handlePdu_cases disp p { server := s }
  rw [handled, hrun, hcalls]
  exact hhandled

/-- One frame. -/
theorem busStep_slots (disp : Dispatcher D) {b : Bus D} (f : Frame) (hinv : SlotInv b) :
    SlotInv (busStep disp b f) ∧ ∀ c ∈ (handled disp b.server f).calls, c.segmented = true →
      Assembled (busStep disp b f).received c := by
  unfold busStep
  cases hreq : requestPdu b.server.nodeId f with
  | none =>
      have hnone : handled disp b.server f = { server := b.server } :=
        congrArg Prod.snd (handleFrame_none (w := { server := b.server }) hreq)
      rw [hnone]
      refine ⟨⟨fun hactive => ?_, hinv.upload⟩, by simp⟩
      show Held (b.received ++ []) _
      rw [List.append_nil]
      exact hinv.download hactive
  | some p => exact handled_slots (handled_some hreq) hinv

/-- **REASSEMBLY UNDER INTERLEAVING**: over every sequence of frames from any number of peers,
    a segmented download that is dispatched is exactly what its source sent in segments since
    its latest initiate; and in every state the slots stay within their totals. -/
theorem reassembly (disp : Dispatcher D) (nodeId : UInt8) (device : D) (frames : List Frame) :
    Along (busStep disp)
      (fun b f => ∀ c ∈ (handled disp b.server f).calls, c.segmented = true →
        Assembled (busStep disp b f).received c) (boot nodeId device) frames ∧
    (let s := (run (busStep disp) (boot nodeId device) frames).server
     (s.segdl.active = true → s.segdl.received ≤ s.segdl.total ∧ s.segdl.total ≤ usdoSegBodyMax) ∧
     (s.segul.active = true → s.segul.sent ≤ s.segul.total ∧ s.segul.total ≤ usdoSegBodyMax)) := by
  have hboot : SlotInv (boot nodeId device) := ⟨nofun, nofun⟩
  have hall : Along (busStep disp) (fun _ _ => True) (boot nodeId device) frames :=
    along_of_forall (fun _ _ => trivial) _ _
  have hstep : ∀ (b : Bus D) f, SlotInv b → True → SlotInv (busStep disp b f) :=
    fun b f hinv _ => (busStep_slots disp f hinv).1
  refine ⟨along_imp hstep (fun b f hinv _ => (busStep_slots disp f hinv).2) hboot hall, ?_⟩
  have hend := run_induction hstep hboot hall
  exact ⟨fun hactive => ⟨(hend.download hactive).within, (hend.download hactive).fits⟩, hend.upload⟩

end SofaReassembly
