import Sofa.Hub
import Sofa.Epochs
import Mathlib.Logic.Relation

/-! # What a round of the hub can do

    A round serves up to sixty-three slots, and serving one can change all of them.  It is a
    sequence of a few kinds of acts: a connection is accepted or turned away, a frame of a peer is
    relayed, a peer is dropped, a message of the adapter is sent to everybody.

    * `sendAll_spec`: of the bytes, some front part is sent, all of them if the send succeeds;
    * **`readOneFrame_taken`**: a frame that is read is valid, and its bytes are what was read;
    * **`busStep_acts`**: a round is a sequence of acts, so that what every act keeps, every run
      keeps (`busRun_invariant`). -/

namespace SofaHub

open ByteBlock FixedBuffer Machine Broadcast SofaDevice SofaUsdo SofaUsdoRaw SofaFraming
open SofaEpochs (putU32le_le)
open Relation (ReflTransGen)

/-! ## Sending -/

section Sending

/-- A connection after more bytes were handed to it: of them, a front part was sent. -/
def SentPart (c c' : Conn) (bytes : List UInt8) (n : Nat) : Prop :=
  n ≤ bytes.length ∧
    ∃ sends, c' = { c with sends := sends, outbox := c.outbox ++ bytes.take n }

theorem SentPart.nothing (c : Conn) (sends : List (Option Nat)) (bytes : List UInt8) :
    SentPart c { c with sends := sends } bytes 0 := by
  refine ⟨Nat.zero_le _, sends, ?_⟩
  rw [List.take_zero, List.append_nil]

/-- One call of `send`. -/
theorem send_spec (c : Conn) {bytes : List UInt8} (h : bytes ≠ []) :
    (∃ c', send c bytes = (none, c') ∧ SentPart c c' bytes 0) ∨
      ∃ r c', send c bytes = (some r, c') ∧ 0 < r ∧ SentPart c c' bytes r := by
  have hpos : 0 < bytes.length := List.length_pos_iff.mpr h
  unfold send
  rcases hsends : c.sends with _ | ⟨_ | k, sends⟩
  · refine .inr ⟨_, _, rfl, hpos, Nat.le_refl _, [], ?_⟩
    rw [List.take_length]
  · exact .inl ⟨_, rfl, SentPart.nothing c sends bytes⟩
  · refine .inr ⟨_, _, rfl, by omega, Nat.min_le_right _ _, sends, ?_⟩
    have htake : bytes.take (k + 1) = bytes.take (min (k + 1) bytes.length) :=
      List.take_eq_take_iff.mpr (by omega)
    rw [htake]

theorem sendAllLoop_spec (fuel : Nat) (c : Conn) (bytes : List UInt8) :
    ∃ n, SentPart c (sendAllLoop fuel c bytes).2 bytes n ∧
      ((sendAllLoop fuel c bytes).1 = true → n = bytes.length) := by
  induction fuel generalizing c bytes with
  | zero => exact ⟨0, SentPart.nothing c c.sends bytes, fun h => Bool.noConfusion h⟩
  | succ fuel ih =>
      rw [sendAllLoop]
      by_cases hnil : bytes = []
      · rw [if_pos hnil, hnil]
        exact ⟨0, SentPart.nothing c c.sends [], fun _ => rfl⟩
      · rw [if_neg hnil]
        rcases send_spec c hnil with ⟨c', hsend, hpart⟩ | ⟨r, c', hsend, -, hle, sends, rfl⟩
        · rw [hsend]
          exact ⟨0, hpart, fun h => Bool.noConfusion h⟩
        · rw [hsend]
          obtain ⟨n, ⟨hn, sends', hc⟩, hall⟩ :=
            ih { c with sends := sends, outbox := c.outbox ++ bytes.take r } (bytes.drop r)
          rw [List.length_drop] at hn
          refine ⟨r + n, ⟨by omega, sends', ?_⟩, fun hok => ?_⟩
          · refine hc.trans ?_
            rw [List.append_assoc, ← List.take_add]
          · have hrest := hall hok
            rw [List.length_drop] at hrest
            omega

/-- **What is sent**: a front part of the bytes, and all of them when the call succeeds. -/
theorem sendAll_spec (c : Conn) (bytes : List UInt8) :
    ∃ n, SentPart c (sendAll c bytes).2 bytes n ∧
      ((sendAll c bytes).1 = true → n = bytes.length) :=
  sendAllLoop_spec _ c bytes

/-- The loop ends on its own: it never runs out of the rounds that `sendAll` gives it. -/
theorem sendAllLoop_fuel (fuel : Nat) (c : Conn) (bytes : List UInt8) (h : bytes.length < fuel) :
    sendAllLoop fuel c bytes = sendAll c bytes := by
  rw [sendAll]
  induction fuel using Nat.strong_induction_on generalizing c bytes with
  | h fuel ih =>
      obtain ⟨fuel, rfl⟩ := Nat.exists_eq_add_one_of_ne_zero (Nat.ne_zero_of_lt h)
      rw [sendAllLoop, sendAllLoop]
      by_cases hnil : bytes = []
      · rw [if_pos hnil, if_pos hnil]
      · rw [if_neg hnil, if_neg hnil]
        rcases send_spec c hnil with ⟨c', hsend, -⟩ | ⟨r, c', hsend, hpos, hle, -⟩
        · rw [hsend]
        · rw [hsend]
          have hshort : (bytes.drop r).length < bytes.length := by
            rw [List.length_drop]
            omega
          dsimp only
          rw [ih fuel (Nat.lt_succ_self _) c' (bytes.drop r) (by omega)]
          by_cases heq : bytes.length < fuel
          · rw [ih bytes.length (by omega) c' (bytes.drop r) hshort]
          · have hlast : fuel = bytes.length := by omega
            rw [← hlast, ih fuel (Nat.lt_succ_self _) c' (bytes.drop r) (by omega)]

end Sending

/-! ## Reading -/

section Reading

/-- `recv` takes from the front. -/
theorem recv_taken {n : Nat} {s s' : Socket} {chunk : List UInt8} (h : recv n s = some (chunk, s')) :
    s.flatten = chunk ++ s'.flatten ∧ chunk.length ≤ n := by
  induction s with
  | nil => simp [recv] at h
  | cons segment s ih =>
      cases segment with
      | nil => exact ih h
      | cons b segment =>
          rw [recv, Option.some.injEq, Prod.mk.injEq] at h
          obtain ⟨rfl, rfl⟩ := h
          refine ⟨?_, List.length_take_le _ _⟩
          rw [List.flatten_cons, List.flatten_cons, ← List.append_assoc, List.take_append_drop]

theorem recvExactLoop_taken {n fuel : Nat} {got bytes : List UInt8} {s s' : Socket}
    (hgot : got.length ≤ n) (h : recvExactLoop n fuel got s = (true, bytes, s')) :
    got ++ s.flatten = bytes ++ s'.flatten ∧ bytes.length = n := by
  induction fuel generalizing got s with
  | zero => simp [recvExactLoop] at h
  | succ fuel ih =>
      rw [recvExactLoop] at h
      by_cases hmore : got.length < n
      · rw [if_pos hmore] at h
        cases hrecv : recv (n - got.length) s with
        | none =>
            rw [hrecv] at h
            simp at h
        | some out =>
            obtain ⟨chunk, rest⟩ := out
            rw [hrecv] at h
            obtain ⟨hflat, hle⟩ := recv_taken hrecv
            obtain ⟨hall, hlen⟩ := ih (by rw [List.length_append]; omega) h
            refine ⟨?_, hlen⟩
            rw [hflat, ← List.append_assoc, hall]
      · rw [if_neg hmore, Prod.mk.injEq, Prod.mk.injEq] at h
        obtain ⟨-, rfl, rfl⟩ := h
        exact ⟨rfl, by omega⟩

theorem recvExact_taken {n : Nat} {bytes : List UInt8} {s s' : Socket}
    (h : recvExact n s = (true, bytes, s')) : s.flatten = bytes ++ s'.flatten ∧ bytes.length = n := by
  obtain ⟨hflat, hlen⟩ := recvExactLoop_taken (Nat.zero_le n) h
  exact ⟨hflat, hlen⟩

/-- Six bytes are the header of the frame that they describe. -/
theorem header_described {header : List UInt8} (h : header.length = headerSize) (f : RawFrame) :
    putU32le (described header f).canId ++ [(described header f).flags, (described header f).len]
      = header := by
  have hbytes := congrArg (· ++ [header.getD 4 0, header.getD 5 0])
    (putU32le_le (header.getD 0 0) (header.getD 1 0) (header.getD 2 0) (header.getD 3 0))
  refine hbytes.trans (List.ext_getElem h.symm fun i hi hlt => ?_)
  have hsix : i < 6 := hi
  interval_cases i <;> exact (List.getElem_eq_getD 0).symm

/-- What was read off a connection: a valid frame, whose bytes stand in front of the rest. -/
structure Taken (s : Socket) (f : RawFrame) (rest : Socket) : Prop where
  valid : frameValidate f = .ok
  bytes : s.flatten = wireBytes f ++ rest.flatten

/-- **A frame that is read** is valid, and its bytes are what was read. -/
theorem readOneFrame_taken {stale : RawFrame} {s : Socket} (h : 0 < (readOneFrame stale s).1) :
    Taken s (readOneFrame stale s).2.1 (readOneFrame stale s).2.2.1 := by
  obtain ⟨ok, header, s₁, hheader⟩ : ∃ ok header s₁, recvExact headerSize s = (ok, header, s₁) :=
    ⟨_, _, _, rfl⟩
  revert h
  rw [readOneFrame, hheader]
  dsimp only
  cases ok with
  | false =>
      rw [Bool.not_false, if_pos rfl]
      intro h
      dsimp only at h
      split at h <;> omega
  | true =>
      obtain ⟨hflat, hlen⟩ := recvExact_taken hheader
      rw [Bool.not_true, if_neg Bool.false_ne_true, parseHeader_eq hlen]
      by_cases hvalid : frameValidate (described header stale) = .ok
      · rw [if_pos hvalid]
        dsimp only
        rw [if_neg (not_not.mpr rfl)]
        have hle := len_le_of_valid hvalid
        have hhead := header_described hlen stale
        by_cases hpos : (described header stale).len.toNat > 0
        · rw [if_pos hpos]
          obtain ⟨ok₂, body, s₂, hbody⟩ :
              ∃ ok₂ body s₂, recvExact (described header stale).len.toNat s₁ = (ok₂, body, s₂) :=
            ⟨_, _, _, rfl⟩
          rw [hbody]
          dsimp only
          cases ok₂ with
          | true =>
              rw [if_pos rfl]
              intro _
              obtain ⟨hflat₂, hlen₂⟩ := recvExact_taken hbody
              have hdata : load (store (described header stale).payload 0 body) 0
                  (described header stale).len.toNat = body := by
                rw [← hlen₂]
                exact load_store_zero _ (by rw [hlen₂]; exact hle)
              refine ⟨hvalid, ?_⟩
              rw [wireBytes, RawFrame.data]
              dsimp only
              rw [hdata, hhead, List.append_assoc, ← hflat₂]
              exact hflat
          | false =>
              rw [if_neg Bool.false_ne_true]
              split <;> intro h <;> dsimp only at h <;> omega
        · rw [if_neg hpos]
          intro _
          refine ⟨hvalid, ?_⟩
          rw [wireBytes, RawFrame.data, Nat.eq_zero_of_not_pos hpos, load_zero, List.append_nil,
            hhead]
          exact hflat
      · rw [if_neg hvalid]
        dsimp only
        rw [if_pos (fun h => hvalid (parseOf_eq_ok.mp h))]
        intro h
        dsimp only at h
        omega

end Reading

/-! ## Acts -/

section Acts

/-- The peer when the hub has read up to `rest`. -/
def BusPeer.reads (p : BusPeer) (rest : Socket) : BusPeer :=
  { p with sock := { p.sock with inbox := rest } }

/-- The slot holds this peer now. -/
def Bus.seat (b : Bus) (i : Fin maxPeers) (p : Option BusPeer) : Bus :=
  { b with peers := Function.update b.peers i p }

/-- These rows are in the trace now, unless the hub is quiet. -/
def Bus.traced (b : Bus) (rows : List Row) : Bus :=
  { b with trace := if b.quiet then b.trace else b.trace ++ rows }

theorem traced_nil (b : Bus) : b.traced [] = b := by
  rw [Bus.traced, List.append_nil, ite_self]

theorem traced_traced (b : Bus) (rows more : List Row) :
    (b.traced rows).traced more = b.traced (rows ++ more) := by
  cases hquiet : b.quiet <;> simp [Bus.traced, hquiet]

/-- The pool is this now. -/
def Bus.pooled (b : Bus) (pool : Fin maxPeers → FdPeer) : Bus := { b with peerPool := pool }

/-- A place in the pool is taken by a peer that connects. -/
def Bus.placed (b : Bus) (u : Fin maxPeers) (tcpPort : UInt16) : Bus :=
  { b with
    peerInUse := Function.update b.peerInUse u true
    peerPool := Function.update b.peerPool u (freshPeer tcpPort)
    trace := if b.quiet then b.trace else b.trace ++ [.connected tcpPort] }

/-- One more socket was handed out. -/
def Bus.counted (b : Bus) : Bus := { b with accepted := b.accepted + 1 }

/-- A new connection. -/
def newPeer (b : Bus) (a : Arrival) (user : Option (Fin maxPeers)) : BusPeer where
  sock :=
    { handle := b.accepted, inbox := a.inbox, sends := a.sends, stream := a.inbox.flatten,
      joined := b.log.length }
  tcpPort := a.tcpPort
  user

/-- The pool after an announcement of the peer. -/
def recorded (b : Bus) (p : BusPeer) (f : RawFrame) : Fin maxPeers → FdPeer :=
  p.user.elim b.peerPool fun u =>
    Function.update b.peerPool u (recordAnnounce (b.peerPool u) f)

/-- The decoder finds a USDO PDU in the frame. -/
def UsdoFrame (f : RawFrame) : Prop :=
  (decodeRaw f ⟨0, 0, 0, 0, 0, 0, false, 0, 0, 0, 0, 0, none⟩).1 = none

/-- Rows about errors. -/
def ErrorRows (rows : List Row) : Prop := ∀ r ∈ rows, ∃ f, r = .frame .error f

/-- What the hub can do at a time. -/
inductive HubAct (b : Bus) : Bus → Prop
  /-- The table is full. -/
  | refused : HubAct b b.counted
  /-- A connection with a place in the pool. -/
  | tracked (i : Fin maxPeers) (a : Arrival) (u : Fin maxPeers) (hfree : b.peers i = none)
      (hplace : b.peerInUse u = false) :
      HubAct b ((b.placed u a.tcpPort).seat i (some (newPeer b a (some u)))).counted
  /-- A connection without one. -/
  | untracked (i : Fin maxPeers) (a : Arrival) (hfree : b.peers i = none)
      (hfull : ∀ u, b.peerInUse u = true) :
      HubAct b (b.seat i (some (newPeer b a none))).counted
  /-- The first announcement of a peer. -/
  | announced (i : Fin maxPeers) (p : BusPeer) (f : RawFrame) (rest : Socket)
      (hp : b.peers i = some p) (htaken : Taken p.sock.inbox f rest)
      (hid : frameIdValue f = simPeerAnnounce)
      (hnew : ∀ u, p.user = some u → (b.peerPool u).announced = false) :
      HubAct b (relayBytes
        (emitFrameTrace ((b.seat i (some (p.reads rest))).pooled (recorded b p f)) f .announce)
        (some p.sock.handle) (wireBytes f))
  /-- A USDO frame of a peer. -/
  | passed (i : Fin maxPeers) (p : BusPeer) (f : RawFrame) (rest : Socket) (ac : Action)
      (hp : b.peers i = some p) (htaken : Taken p.sock.inbox f rest) (hac : ac ≠ .error)
      (hsim : canIdIsSimOnly (frameIdValue f) = false) (husdo : UsdoFrame f) :
      HubAct b (pcanBridgeSendIfOpen
        (relayBytes (emitFrameTrace (b.seat i (some (p.reads rest))) f ac)
          (some p.sock.handle) (wireBytes f)) f)
  /-- The end of a connection, or an error on it. -/
  | dropped (i : Fin maxPeers) (p : BusPeer) (rest : Socket) (rows : List Row)
      (hp : b.peers i = some p) (hrows : ErrorRows rows) :
      HubAct b (dropPeer ((b.seat i (some (p.reads rest))).traced rows) i)
  /-- A message of the adapter. -/
  | bridged (m : PcanMsg) (f : RawFrame) (hopen : b.pcanOpen = true)
      (hm : pcanReadFrame m = some f) :
      HubAct b (eachPeer (emitFrameTrace b f (pcanAction f m.id)) (wireBytes f))

variable {b b' : Bus} {i : Fin maxPeers} {p : BusPeer}

/-- A valid frame fits the buffer. -/
theorem serialize_valid {f : RawFrame} (h : frameValidate f = .ok) :
    frameSerialize f wireMax = some (wireBytes f) := by
  have hsend := carrierSend_eq h
  rwa [carrierSend, if_neg (not_not.mpr h)] at hsend

theorem relayFrame_eq {f : RawFrame} (h : frameValidate f = .ok) (b : Bus) (origin : Option Nat) :
    relayFrame b origin f = relayBytes b origin (wireBytes f) := by
  rw [relayFrame, serialize_valid h]

theorem usdoAction_ne (kind : UsdoKind) (cmd : UInt8) : usdoAction kind cmd ≠ .error := by
  cases kind with
  | request => exact Action.noConfusion
  | none | response =>
      simp only [usdoAction]
      by_cases h : cmd = cmdAbort
      · rw [if_pos h]
        exact Action.noConfusion
      · rw [if_neg h]
        exact Action.noConfusion

theorem emitCarrierError_eq (b : Bus) (e : UInt8) :
    ∃ rows, ErrorRows rows ∧ emitCarrierError b e = b.traced rows := by
  refine ⟨[_], fun r hr => ⟨_, List.mem_singleton.mp hr⟩, rfl⟩

theorem pcanReadFrame_valid {m : PcanMsg} {f : RawFrame} (h : pcanReadFrame m = some f) :
    frameValidate f = .ok ∧ canIdIsSimOnly m.id = false := by
  rw [pcanReadFrame] at h
  split at h
  · cases h
  · rename_i hsim
    split at h
    · cases h
    · split at h
      · cases h
      · rename_i hvalid
        cases h
        exact ⟨not_not.mp hvalid, Bool.eq_false_of_not_eq_true hsim⟩

theorem bridgeMessage_acts (h : b.pcanOpen = true) (m : PcanMsg) :
    ReflTransGen HubAct b (bridgeMessage b m) := by
  rw [bridgeMessage]
  cases hm : pcanReadFrame m with
  | none => exact .refl
  | some f =>
      dsimp only
      rw [serialize_valid (pcanReadFrame_valid hm).1]
      exact .single (.bridged m f h hm)

theorem bridgeMessage_open (b : Bus) (m : PcanMsg) : (bridgeMessage b m).pcanOpen = b.pcanOpen := by
  rw [bridgeMessage]
  cases pcanReadFrame m with
  | none => rfl
  | some f =>
      dsimp only
      cases frameSerialize f wireMax <;> rfl

theorem cbOnIdleTick_acts (b : Bus) (queue : List PcanMsg) :
    ReflTransGen HubAct b (cbOnIdleTick b queue) := by
  rw [cbOnIdleTick]
  by_cases hopen : b.pcanOpen = true
  · rw [hopen, Bool.not_true, if_neg Bool.false_ne_true]
    induction queue generalizing b with
    | nil => exact .refl
    | cons m queue ih =>
        exact (bridgeMessage_acts hopen m).trans (ih _ ((bridgeMessage_open b m).trans hopen))
  · rw [Bool.eq_false_of_not_eq_true hopen, Bool.not_false, if_pos rfl]

theorem acceptNewPeer_acts (b : Bus) (a : Arrival) : HubAct b (acceptNewPeer b a) := by
  rw [acceptNewPeer]
  cases hslot : slots.find? fun i => (b.peers i).isNone with
  | none => exact .refused
  | some i =>
      have hfound := List.find?_some (p := fun i => (b.peers i).isNone) hslot
      have hfree : b.peers i = none := Option.isNone_iff_eq_none.mp hfound
      rw [cbOnPeerAccepted]
      cases hplace : allocPeer b with
      | none =>
          refine .untracked i a hfree fun u => ?_
          have hall := List.find?_eq_none.mp hplace u (List.mem_finRange u)
          simpa using hall
      | some u =>
          refine .tracked i a u hfree ?_
          have hfound := List.find?_some hplace
          simpa using hfound

/-- **A readable peer**: the hub relays its frame, or it has read something and the peer is to be
    dropped. -/
theorem readable_cases (hp : b.peers i = some p) (stale : RawFrame) :
    ((cbOnPeerReadable b i p stale).1 = true ∧ HubAct b (cbOnPeerReadable b i p stale).2) ∨
    ((cbOnPeerReadable b i p stale).1 = false ∧ ∃ rest rows, ErrorRows rows ∧
      (cbOnPeerReadable b i p stale).2 = (b.seat i (some (p.reads rest))).traced rows) := by
  -- what is reported before the peer is dropped
  have herror : ∀ e, ∃ rest rows, ErrorRows rows ∧
      emitCarrierError (b.seat i (some (p.reads (readOneFrame stale p.sock.inbox).2.2.1))) e
        = (b.seat i (some (p.reads rest))).traced rows := by
    intro e
    obtain ⟨rows, hrows, heq⟩ := emitCarrierError_eq
      (b.seat i (some (p.reads (readOneFrame stale p.sock.inbox).2.2.1))) e
    exact ⟨_, rows, hrows, heq⟩
  rw [cbOnPeerReadable]
  dsimp only
  by_cases hread : (readOneFrame stale p.sock.inbox).1 ≤ 0
  · rw [if_pos hread]
    refine .inr ⟨rfl, ?_⟩
    cases (readOneFrame stale p.sock.inbox).2.2.2 with
    | none =>
        refine ⟨(readOneFrame stale p.sock.inbox).2.2.1, [], fun r hr => absurd hr List.not_mem_nil,
          ?_⟩
        rw [traced_nil]
        rfl
    | some e => exact herror e
  · rw [if_neg hread]
    have htaken := readOneFrame_taken (not_le.mp hread)
    by_cases hann : frameIdValue (readOneFrame stale p.sock.inbox).2.1 = simPeerAnnounce
    · rw [if_pos hann]
      by_cases hdup : (p.user.any fun u => (b.peerPool u).announced) = true
      · rw [if_pos hdup]
        exact .inr ⟨rfl, herror _⟩
      · rw [if_neg hdup, relayFrame_eq htaken.valid]
        refine .inl ⟨rfl, .announced i p _ _ hp htaken hann fun u hu => ?_⟩
        rw [hu, Option.any_some] at hdup
        exact Bool.eq_false_of_not_eq_true hdup
    · rw [if_neg hann]
      by_cases hctl : (decide (frameIdValue (readOneFrame stale p.sock.inbox).2.1 = simPeerLoss)
          || decide (frameIdValue (readOneFrame stale p.sock.inbox).2.1 = simFrameError)) = true
      · rw [if_pos hctl]
        exact .inr ⟨rfl, herror _⟩
      · rw [if_neg hctl]
        by_cases hkind : (canIdSplit (frameIdValue (readOneFrame stale p.sock.inbox).2.1)).2 ≠ .none
        · rw [if_pos hkind]
          split
          · exact .inr ⟨rfl, herror _⟩
          · rename_i hpdu
            rw [relayFrame_eq htaken.valid]
            refine .inl ⟨rfl, .passed i p _ _ _ hp htaken ?_ ?_ (not_not.mp hpdu)⟩
            · exact usdoAction_ne _ _
            · rw [canIdIsSimOnly, Bool.or_assoc, Bool.eq_false_of_not_eq_true hctl, Bool.or_false]
              exact decide_eq_false hann
        · rw [if_neg hkind]
          exact .inr ⟨rfl, herror _⟩

theorem servePeer_acts (rfds : Nat → Bool) (stale : Fin maxPeers → RawFrame) (b : Bus)
    (i : Fin maxPeers) : ReflTransGen HubAct b (servePeer rfds stale b i) := by
  rw [servePeer]
  cases hp : b.peers i with
  | none => exact .refl
  | some p =>
      dsimp only
      by_cases hset : rfds p.sock.handle = true
      · rw [if_pos hset]
        rcases readable_cases hp (stale i) with ⟨hok, hact⟩ | ⟨hno, rest, rows, hrows, heq⟩
        · rw [if_pos hok]
          exact .single hact
        · rw [if_neg (by rw [hno]; exact Bool.false_ne_true), heq]
          exact .single (.dropped i p rest rows hp hrows)
      · rw [if_neg hset]

/-- A fold of steps that are acts. -/
theorem foldl_acts {α : Type} {f : Bus → α → Bus} (h : ∀ b a, ReflTransGen HubAct b (f b a))
    (as : List α) (b : Bus) : ReflTransGen HubAct b (as.foldl f b) := by
  induction as generalizing b with
  | nil => exact .refl
  | cons a as ih => exact (h b a).trans (ih (f b a))

/-- **A round is a sequence of acts.** -/
theorem busStep_acts (b : Bus) (sel : Selected) : ReflTransGen HubAct b (busStep b sel) := by
  cases sel with
  | timeout queue => exact cbOnIdleTick_acts b queue
  | ready listener readable stale =>
      rw [busStep]
      refine .trans ?_ (foldl_acts (servePeer_acts _ stale) slots _)
      cases listener with
      | none => exact .refl
      | some a => exact .single (acceptNewPeer_acts b a)

/-- **What every act keeps, every run keeps.** -/
theorem busRun_invariant {I : Bus → Prop} (hact : ∀ b b', HubAct b b' → I b → I b')
    {quiet pcanOpen : Bool} (hstart : I (busStart quiet pcanOpen)) (rounds : List Selected) :
    I (busRun quiet pcanOpen rounds) := by
  have hround : ∀ b sel, I b → True → I (busStep b sel) := by
    intro b sel hb _
    have hacts := busStep_acts b sel
    generalize busStep b sel = b' at hacts ⊢
    induction hacts with
    | refl => exact hb
    | tail _ hlast ih => exact hact _ _ hlast ih
  exact run_induction hround hstart (along_of_forall (fun _ _ => trivial) _ rounds)

end Acts

end SofaHub
