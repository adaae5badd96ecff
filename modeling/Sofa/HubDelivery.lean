import Sofa.HubActs

/-! # One order for everybody

    The hub gives what its peers send one order, and every peer gets all of it in this order but
    for what it sent itself.  A connection can fail in the middle of a frame; the hub then gives
    the slot up, except in an idle tick, which does not look at the result.  A connection that
    failed there is torn: it stays, and of a frame of the adapter it may have got a front part.

    * **`hub_broadcast`**: a peer has been sent what went over the bus since it connected, without
      its own frames, frames of the adapter in part if the connection is torn;
    * **`hub_fifo`**: what went over the bus for a peer is exactly what came from it, as far as it
      was read; and of two peers, the one that connected later has been sent, of what neither of
      them said, the end of what the other was sent;
    * **`hub_frames`**: what went over the bus are valid frames, and a peer whose connection is not
      torn reads them back one by one. -/

namespace SofaHub

open ByteBlock FixedBuffer Machine Broadcast SofaDevice SofaUsdo SofaUsdoRaw SofaFraming

/-! ## What the acts do to the table -/

section Table

variable {b : Bus} {i j : Fin maxPeers} {p q : BusPeer} {origin : Option Nat} {bytes : List UInt8}

/-- The peer after some bytes were sent to it. -/
def BusPeer.sent (p : BusPeer) (sends : List (Option Nat)) (bytes : List UInt8) : BusPeer :=
  { p with sock := { p.sock with sends, outbox := p.sock.outbox ++ bytes } }

/-- The peer after an idle tick sent to it. -/
def BusPeer.ticked (p : BusPeer) (torn : Bool) : BusPeer :=
  { p with sock := { p.sock with torn } }

/-- The slot was given up. -/
def Bus.vacated (b : Bus) (i : Fin maxPeers) (p : BusPeer) : Bus :=
  { b.seat i none with gone := b.gone ++ [⟨p, b.log.length, false⟩] }

/-- The place in the pool is free. -/
def Bus.freed (b : Bus) (u : Fin maxPeers) : Bus :=
  { b with peerInUse := Function.update b.peerInUse u false }

theorem freed_self (b : Bus) (u : Fin maxPeers) : (b.freed u).peerInUse u = false := by
  show Function.update b.peerInUse u false u = false
  rw [Function.update_self]

theorem freed_other {u v : Fin maxPeers} (h : v ≠ u) :
    (b.freed u).peerInUse v = b.peerInUse v := by
  show Function.update b.peerInUse u false v = b.peerInUse v
  rw [Function.update_of_ne h]

theorem placed_self (b : Bus) (u : Fin maxPeers) (tcpPort : UInt16) :
    (b.placed u tcpPort).peerInUse u = true := by
  show Function.update b.peerInUse u true u = true
  rw [Function.update_self]

theorem placed_other {u v : Fin maxPeers} (h : v ≠ u) (tcpPort : UInt16) :
    (b.placed u tcpPort).peerInUse v = b.peerInUse v := by
  show Function.update b.peerInUse u true v = b.peerInUse v
  rw [Function.update_of_ne h]

theorem seat_cases {s : Option BusPeer} (h : (b.seat i s).peers j = some q) :
    (j = i ∧ s = some q) ∨ (j ≠ i ∧ b.peers j = some q) := by
  have hseat : (if j = i then s else b.peers j) = some q :=
    (Function.update_apply b.peers i s j).symm.trans h
  by_cases hji : j = i
  · rw [if_pos hji] at hseat
    exact .inl ⟨hji, hseat⟩
  · rw [if_neg hji] at hseat
    exact .inr ⟨hji, hseat⟩

theorem vacated_self (b : Bus) (i : Fin maxPeers) (p : BusPeer) :
    (b.vacated i p).peers i = none := by
  show Function.update b.peers i none i = none
  rw [Function.update_self]

theorem vacated_cases (h : (b.vacated i p).peers j = some q) : j ≠ i ∧ b.peers j = some q := by
  rcases seat_cases (s := none) h with ⟨-, hnone⟩ | hother
  · cases hnone
  · exact hother

/-- **A peer after a relay** is the origin, or it was sent all of the bytes. -/
theorem relayed_peer (h : (relayBytes b origin bytes).peers i = some q) :
    ∃ p, b.peers i = some p ∧ ((origin = some p.sock.handle ∧ q = p) ∨
      (origin ≠ some p.sock.handle ∧ ∃ sends, q = p.sent sends bytes)) := by
  have hslot : ((b.peers i).bind fun p =>
      if (relayPeer origin bytes p).1 then some (relayPeer origin bytes p).2 else none) = some q := h
  obtain ⟨p, hp, hq⟩ := Option.bind_eq_some_iff.mp hslot
  refine ⟨p, hp, ?_⟩
  rw [relayPeer] at hq
  by_cases hown : some p.sock.handle = origin
  · rw [if_pos hown, if_pos rfl] at hq
    exact .inl ⟨hown.symm, (Option.some.inj hq).symm⟩
  · rw [if_neg hown] at hq
    obtain ⟨n, ⟨-, sends, hsent⟩, hall⟩ := sendAll_spec p.sock bytes
    by_cases hok : (sendAll p.sock bytes).1 = true
    · rw [if_pos hok, hsent, hall hok, List.take_length] at hq
      exact .inr ⟨fun heq => hown heq.symm, sends, (Option.some.inj hq).symm⟩
    · rw [if_neg hok] at hq
      cases hq

/-- A slot that a relay gave up had been sent a front part of the bytes. -/
theorem relayed_gone {g : Gone} (h : g ∈ (relayBytes b origin bytes).gone) :
    g ∈ b.gone ∨ ∃ i p n sends, b.peers i = some p ∧ origin ≠ some p.sock.handle ∧
      (relayBytes b origin bytes).peers i = none ∧
      g = ⟨p.sent sends (bytes.take n), b.log.length + 1, true⟩ := by
  rcases List.mem_append.mp h with hold | hnew
  · exact .inl hold
  · obtain ⟨i, -, hi⟩ := List.mem_filterMap.mp hnew
    obtain ⟨p, hp, hg⟩ := Option.bind_eq_some_iff.mp hi
    refine .inr ⟨i, p, ?_⟩
    rw [relayPeer] at hg
    by_cases hown : some p.sock.handle = origin
    · rw [if_pos hown, if_pos rfl] at hg
      cases hg
    · rw [if_neg hown] at hg
      obtain ⟨n, ⟨-, sends, hsent⟩, -⟩ := sendAll_spec p.sock bytes
      by_cases hok : (sendAll p.sock bytes).1 = true
      · rw [if_pos hok] at hg
        cases hg
      · rw [if_neg hok, hsent] at hg
        refine ⟨n, sends, hp, fun heq => hown heq.symm, ?_, (Option.some.inj hg).symm.trans ?_⟩
        · show ((b.peers i).bind fun p =>
            if (relayPeer origin bytes p).1 then some (relayPeer origin bytes p).2 else none) = none
          rw [hp, Option.bind_some, relayPeer, if_neg hown, if_neg hok]
        · rw [List.length_append]
          rfl

/-- A peer after an idle tick: unless it is marked, it was sent all of the bytes. -/
theorem ticked_peer (h : (eachPeer b bytes).peers i = some q) :
    ∃ p n sends torn, b.peers i = some p ∧ q = (p.sent sends (bytes.take n)).ticked torn ∧
      (torn = false → p.sock.torn = false ∧ n = bytes.length) := by
  obtain ⟨p, hp, rfl⟩ := Option.map_eq_some_iff.mp h
  obtain ⟨n, ⟨-, sends, hsent⟩, hall⟩ := sendAll_spec p.sock bytes
  refine ⟨p, n, sends, (sendAll p.sock bytes).2.torn || !(sendAll p.sock bytes).1, hp, ?_,
    fun htorn => ?_⟩
  · rw [sendToPeerVisitor]
    dsimp only
    rw [hsent]
    rfl
  · rw [hsent, Bool.or_eq_false_iff, Bool.not_eq_false'] at htorn
    exact ⟨htorn.1, hall htorn.2⟩

/-- The loss of a peer that was announced. -/
theorem fillPeerLoss_valid (p : FdPeer) : frameValidate (fillPeerLoss p) = .ok := by
  have hname : p.nameLen.toNat ≤ 30 := p.fits
  have hlen : (fillPeerLoss p).len.toNat ≤ 64 := by
    show (UInt8.ofNat (2 + p.nameLen.toNat)).toNat ≤ 64
    rw [UInt8.toNat_ofNat']
    omega
  have hid : (fillPeerLoss p).canId = 0x9FFFFFE1 := by
    show (frameInit simPeerLoss true).canId = 0x9FFFFFE1
    decide
  have hflags : (fillPeerLoss p).flags = 0 := rfl
  rw [frameValidate, validateFields_iff, hid, hflags]
  exact ⟨by decide, by decide, by decide, by decide, hlen⟩

/-- **A peer that is dropped**: its slot is given up, and if it had announced itself the others
    are told. -/
theorem dropPeer_cases (hp : b.peers i = some p) :
    (p.user = none ∧ dropPeer b i = b.vacated i p) ∨
    (∃ u port, p.user = some u ∧ (b.peerPool u).announced = false ∧
      dropPeer b i = ((b.vacated i p).traced [.disconnected port]).freed u) ∨
    ∃ u port, p.user = some u ∧ (b.peerPool u).announced = true ∧
      dropPeer b i = (relayBytes ((b.vacated i p).traced
        [.disconnected port, .frame .loss (toFrame (fillPeerLoss (b.peerPool u)))])
        (some p.sock.handle) (wireBytes (fillPeerLoss (b.peerPool u)))).freed u := by
  rw [dropPeer, hp]
  dsimp only
  rw [cbOnPeerDropped]
  cases huser : p.user with
  | none => exact .inl ⟨rfl, rfl⟩
  | some u =>
      dsimp only
      cases hann : (b.peerPool u).announced with
      | false => exact .inr (.inl ⟨u, (b.peerPool u).tcpPort, rfl, hann, rfl⟩)
      | true =>
          refine .inr (.inr ⟨u, (b.peerPool u).tcpPort, rfl, hann, ?_⟩)
          rw [if_pos rfl, relayFrame_eq (fillPeerLoss_valid _)]
          exact congrArg (fun b' : Bus => (relayBytes b' _ _).freed u) (traced_traced _ _ _)

end Table

/-! ## Sockets -/

section Sockets

variable {b b' : Bus} {i : Fin maxPeers} {p : BusPeer} {rest : Socket} {origin : Option Nat}
  {bytes : List UInt8}

/-- Sockets are told apart, by the slots, by the connections that were closed and by the log. -/
structure Handles (b : Bus) : Prop where
  seated : ∀ i p, b.peers i = some p → p.sock.handle < b.accepted
  apart : ∀ i j p q, b.peers i = some p → b.peers j = some q →
    p.sock.handle = q.sock.handle → i = j
  gone : ∀ g ∈ b.gone, g.peer.sock.handle < b.accepted
  left : ∀ g ∈ b.gone, ∀ i p, b.peers i = some p → p.sock.handle ≠ g.peer.sock.handle
  said : ∀ e ∈ b.log, ∀ h, e.origin = some h → h < b.accepted

/-- Nothing else of the hub counts. -/
theorem Handles.transfer (h : Handles b) (hpeers : b'.peers = b.peers) (hgone : b'.gone = b.gone)
    (hlog : b'.log = b.log) (hacc : b'.accepted = b.accepted) : Handles b' where
  seated := by
    rw [hpeers, hacc]
    exact h.seated
  apart := by
    rw [hpeers]
    exact h.apart
  gone := by
    rw [hgone, hacc]
    exact h.gone
  left := by
    rw [hgone, hpeers]
    exact h.left
  said := by
    rw [hlog, hacc]
    exact h.said

theorem handles_start (quiet pcanOpen : Bool) : Handles (busStart quiet pcanOpen) where
  seated := fun _ p h => absurd h.symm (Option.some_ne_none p)
  apart := fun _ _ p _ h => absurd h.symm (Option.some_ne_none p)
  gone := fun _ h => absurd h List.not_mem_nil
  left := fun _ h => absurd h List.not_mem_nil
  said := fun _ h => absurd h List.not_mem_nil

/-- No slot gets another socket, and a socket that is gone was that of a slot that is empty. -/
theorem Handles.same (h : Handles b) (hacc : b'.accepted = b.accepted)
    (hpeers : ∀ i q, b'.peers i = some q →
      ∃ p, b.peers i = some p ∧ q.sock.handle = p.sock.handle)
    (hgone : ∀ g ∈ b'.gone, g ∈ b.gone ∨ ∃ i p, b.peers i = some p ∧ b'.peers i = none ∧
      g.peer.sock.handle = p.sock.handle)
    (hlog : ∀ e ∈ b'.log, e ∈ b.log ∨ ∀ h, e.origin = some h → h < b.accepted) : Handles b' where
  seated := by
    intro i q hq
    obtain ⟨p, hp, heq⟩ := hpeers i q hq
    rw [heq, hacc]
    exact h.seated i p hp
  apart := by
    intro i j q q' hq hq' heq
    obtain ⟨p, hp, hqp⟩ := hpeers i q hq
    obtain ⟨p', hp', hqp'⟩ := hpeers j q' hq'
    exact h.apart i j p p' hp hp' (hqp.symm.trans (heq.trans hqp'))
  gone := by
    intro g hg
    rw [hacc]
    rcases hgone g hg with hold | ⟨i, p, hp, -, heq⟩
    · exact h.gone g hold
    · rw [heq]
      exact h.seated i p hp
  left := by
    intro g hg j q hq heq
    obtain ⟨p, hp, hqp⟩ := hpeers j q hq
    rcases hgone g hg with hold | ⟨i, p', hp', hnone, hgp⟩
    · exact h.left g hold j p hp (hqp.symm.trans heq)
    · have hij := h.apart j i p p' hp hp' (hqp.symm.trans (heq.trans hgp))
      rw [hij, hnone] at hq
      cases hq
  said := by
    intro e he k hk
    rw [hacc]
    rcases hlog e he with hold | hnew
    · exact h.said e hold k hk
    · exact hnew k hk

theorem Handles.reads (h : Handles b) (hp : b.peers i = some p) (rest : Socket) :
    Handles (b.seat i (some (p.reads rest))) := by
  refine h.same rfl (fun j q hq => ?_) (fun g hg => .inl hg) fun e he => .inl he
  rcases seat_cases hq with ⟨rfl, hsome⟩ | ⟨-, hold⟩
  · rw [← Option.some.inj hsome]
    exact ⟨p, hp, rfl⟩
  · exact ⟨q, hold, rfl⟩

theorem Handles.vacate (h : Handles b) (hp : b.peers i = some p) : Handles (b.vacated i p) := by
  refine h.same rfl (fun j q hq => ⟨q, (vacated_cases hq).2, rfl⟩) (fun g hg => ?_) fun e he =>
    .inl he
  rcases List.mem_append.mp hg with hold | hnew
  · exact .inl hold
  · rw [List.mem_singleton.mp hnew]
    exact .inr ⟨i, p, hp, vacated_self b i p, rfl⟩

theorem Handles.relay (h : Handles b) (horigin : ∀ k, origin = some k → k < b.accepted) :
    Handles (relayBytes b origin bytes) := by
  refine h.same rfl (fun j q hq => ?_) (fun g hg => ?_) fun e he => ?_
  · obtain ⟨p, hp, ⟨-, rfl⟩ | ⟨-, sends, rfl⟩⟩ := relayed_peer hq
    · exact ⟨_, hp, rfl⟩
    · exact ⟨p, hp, rfl⟩
  · rcases relayed_gone hg with hold | ⟨i, p, n, sends, hp, -, hnone, rfl⟩
    · exact .inl hold
    · exact .inr ⟨i, p, hp, hnone, rfl⟩
  · rcases List.mem_append.mp he with hold | hnew
    · exact .inl hold
    · rw [List.mem_singleton.mp hnew]
      exact .inr horigin

theorem Handles.tick (h : Handles b) : Handles (eachPeer b bytes) := by
  refine h.same rfl (fun j q hq => ?_) (fun g hg => .inl hg) fun e he => ?_
  · obtain ⟨p, n, sends, torn, hp, rfl, -⟩ := ticked_peer hq
    exact ⟨p, hp, rfl⟩
  · rcases List.mem_append.mp he with hold | hnew
    · exact .inl hold
    · rw [List.mem_singleton.mp hnew]
      exact .inr fun k hk => absurd hk.symm (Option.some_ne_none k)

/-- A new connection. -/
theorem Handles.join (h : Handles b) (hfree : b.peers i = none) (a : Arrival)
    (user : Option (Fin maxPeers)) : Handles (b.seat i (some (newPeer b a user))).counted where
  seated := by
    intro j q hq
    show q.sock.handle < b.accepted + 1
    rcases seat_cases hq with ⟨-, hsome⟩ | ⟨-, hold⟩
    · rw [← Option.some.inj hsome]
      exact Nat.lt_succ_self _
    · exact Nat.lt_succ_of_lt (h.seated j q hold)
  apart := by
    intro j k q r hq hr heq
    rcases seat_cases hq with ⟨rfl, hnew⟩ | ⟨-, hold⟩
    · rcases seat_cases hr with ⟨rfl, -⟩ | ⟨-, hold⟩
      · rfl
      · have hlt := h.seated k r hold
        rw [← heq, ← Option.some.inj hnew] at hlt
        exact absurd hlt (Nat.lt_irrefl _)
    · rcases seat_cases hr with ⟨rfl, hnew⟩ | ⟨-, hold'⟩
      · have hlt := h.seated j q hold
        rw [heq, ← Option.some.inj hnew] at hlt
        exact absurd hlt (Nat.lt_irrefl _)
      · exact h.apart j k q r hold hold' heq
  gone := fun g hg => Nat.lt_succ_of_lt (h.gone g hg)
  left := by
    intro g hg j q hq heq
    rcases seat_cases hq with ⟨-, hnew⟩ | ⟨-, hold⟩
    · have hlt := h.gone g hg
      rw [← heq, ← Option.some.inj hnew] at hlt
      exact absurd hlt (Nat.lt_irrefl _)
    · exact h.left g hg j q hold heq
  said := fun e he k hk => Nat.lt_succ_of_lt (h.said e he k hk)

theorem Handles.drop (h : Handles b) (hp : b.peers i = some p) : Handles (dropPeer b i) := by
  have hvacated := h.vacate hp
  rcases dropPeer_cases hp with ⟨-, heq⟩ | ⟨u, port, -, -, heq⟩ | ⟨u, port, -, -, heq⟩
  · rw [heq]
    exact hvacated
  · rw [heq]
    exact hvacated.transfer rfl rfl rfl rfl
  · rw [heq]
    have hrows : Handles ((b.vacated i p).traced
        [.disconnected port, .frame .loss (toFrame (fillPeerLoss (b.peerPool u)))]) :=
      hvacated.transfer rfl rfl rfl rfl
    have hrelay : Handles (relayBytes ((b.vacated i p).traced
        [.disconnected port, .frame .loss (toFrame (fillPeerLoss (b.peerPool u)))])
        (some p.sock.handle) (wireBytes (fillPeerLoss (b.peerPool u)))) :=
      hrows.relay fun k hk => Option.some.inj hk ▸ h.seated i p hp
    exact hrelay.transfer rfl rfl rfl rfl

theorem handles_act (hact : HubAct b b') (h : Handles b) : Handles b' := by
  cases hact with
  | refused =>
      exact ⟨fun i p hp => Nat.lt_succ_of_lt (h.seated i p hp), h.apart,
        fun g hg => Nat.lt_succ_of_lt (h.gone g hg), h.left,
        fun e he k hk => Nat.lt_succ_of_lt (h.said e he k hk)⟩
  | tracked i a u hfree _ =>
      have hjoin := h.join hfree a (some u)
      exact hjoin.transfer rfl rfl rfl rfl
  | untracked i a hfree _ => exact h.join hfree a none
  | announced i p f rest hp _ _ _ =>
      have hreads := h.reads hp rest
      refine Handles.relay (hreads.transfer rfl rfl rfl rfl) ?_
      intro k hk
      exact Option.some.inj hk ▸ h.seated i p hp
  | passed i p f rest ac hp _ _ _ _ =>
      have hreads := h.reads hp rest
      have hrelay : Handles (relayBytes (emitFrameTrace (b.seat i (some (p.reads rest))) f ac)
          (some p.sock.handle) (wireBytes f)) := by
        refine Handles.relay (hreads.transfer rfl rfl rfl rfl) ?_
        intro k hk
        exact Option.some.inj hk ▸ h.seated i p hp
      rw [pcanBridgeSendIfOpen]
      split
      · exact hrelay
      · split
        · exact hrelay
        · exact hrelay.transfer rfl rfl rfl rfl
  | dropped i p rest rows hp _ =>
      have hreads := h.reads hp rest
      have hseat : ((b.seat i (some (p.reads rest))).traced rows).peers i = some (p.reads rest) :=
        Function.update_self i _ b.peers
      exact Handles.drop (hreads.transfer rfl rfl rfl rfl) hseat
  | bridged m f _ _ => exact Handles.tick (h.transfer rfl rfl rfl rfl)

end Sockets

/-! ## Delivery -/

section Delivery

variable {b b' : Bus} {i : Fin maxPeers} {p : BusPeer} {origin : Option Nat}
  {bytes : List UInt8}

/-- The bytes of messages, one after the other. -/
def wire (es : List (Entry Nat (List UInt8))) : List UInt8 := es.flatMap (·.message)

theorem wire_concat (es : List (Entry Nat (List UInt8))) (e : Entry Nat (List UInt8)) :
    wire (es ++ [e]) = wire es ++ e.message := by
  rw [wire, List.flatMap_append, List.flatMap_singleton]
  rfl

/-- The messages that a connection was to be sent, up to a place in the log if there is one. -/
def due (b : Bus) (c : Conn) (left : Option Nat) : List (Entry Nat (List UInt8)) :=
  heard c.handle c.joined left b.log

/-- A message of the adapter may be cut on a connection on which an idle tick failed. -/
def MayCut (torn : Bool) (e : Entry Nat (List UInt8)) : Prop := torn = true ∧ e.origin = none

/-- What a connection was sent: every message that it was to be sent, in their order, all of it
    unless it may be cut. -/
def Sent (b : Bus) (c : Conn) (left : Option Nat) : Prop :=
  Carried (MayCut c.torn) (due b c left) c.outbox

/-- What a connection was sent that was given up in the middle of a message: a front part of this
    message, after those before it. -/
def SentUpTo (b : Bus) (c : Conn) (left : Nat) : Prop :=
  ∃ es e out front, due b c (some left) = es ++ [e] ∧ Carried (MayCut c.torn) es out ∧
    front <+: e.message ∧ c.outbox = out ++ front

/-- On a connection that is not torn nothing is cut. -/
theorem carried_whole {es : List (Entry Nat (List UInt8))} {torn : Bool} {out : List UInt8}
    (h : Carried (MayCut torn) es out) (htorn : torn = false) : out = wire es := by
  refine h.eq_flatMap fun e _ hcut => ?_
  rw [hcut.1] at htorn
  exact Bool.noConfusion htorn

theorem SentUpTo.front {c : Conn} {left : Nat} (h : SentUpTo b c left) (htorn : c.torn = false) :
    c.outbox <+: wire (due b c (some left)) := by
  obtain ⟨es, e, out, front, hdue, hout, hfront, heq⟩ := h
  rw [hdue, wire_concat, heq, carried_whole hout htorn]
  exact (List.prefix_append_right_inj _).mpr hfront

/-- What the connections were sent: those in the table and those that `drop_peer` gave up all that
    they were to be sent, and those that a relay gave up the last message in part. -/
structure Delivered (b : Bus) : Prop where
  joined : ∀ i p, b.peers i = some p → p.sock.joined ≤ b.log.length
  seated : ∀ i p, b.peers i = some p → Sent b p.sock none
  left : ∀ g ∈ b.gone, g.left ≤ b.log.length
  dropped : ∀ g ∈ b.gone, g.cut = false → Sent b g.peer.sock (some g.left)
  severed : ∀ g ∈ b.gone, g.cut = true → SentUpTo b g.peer.sock g.left

theorem delivered_start (quiet pcanOpen : Bool) : Delivered (busStart quiet pcanOpen) where
  joined := fun _ p h => absurd h.symm (Option.some_ne_none p)
  seated := fun _ p h => absurd h.symm (Option.some_ne_none p)
  left := fun _ h => absurd h List.not_mem_nil
  dropped := fun _ h => absurd h List.not_mem_nil
  severed := fun _ h => absurd h List.not_mem_nil

/-- Nothing else of the hub counts. -/
theorem Delivered.transfer (h : Delivered b) (hpeers : b'.peers = b.peers)
    (hgone : b'.gone = b.gone) (hlog : b'.log = b.log) : Delivered b' := by
  obtain ⟨hjoined, hseated, hleft, hdropped, hsevered⟩ := h
  simp only [Sent, SentUpTo, due, ← hpeers, ← hgone, ← hlog]
    at hjoined hseated hleft hdropped hsevered
  exact ⟨hjoined, hseated, hleft, hdropped, hsevered⟩

theorem length_relayed (b : Bus) (origin : Option Nat) (bytes : List UInt8) :
    (relayBytes b origin bytes).log.length = b.log.length + 1 := List.length_append

theorem length_ticked (b : Bus) (bytes : List UInt8) :
    (eachPeer b bytes).log.length = b.log.length + 1 := List.length_append

/-- One more message, for a connection that did not send it. -/
theorem due_other {c : Conn} (hjoined : c.joined ≤ b.log.length)
    (hother : origin ≠ some c.handle) (h : b'.log = b.log ++ [⟨origin, bytes⟩]) :
    due b' c none = due b c none ++ [⟨origin, bytes⟩] := by
  rw [due, due, h, heard_concat_other hjoined hother]

/-- One more message, for the connection that it came from. -/
theorem due_own {c : Conn} (hjoined : c.joined ≤ b.log.length)
    (hown : origin = some c.handle) (h : b'.log = b.log ++ [⟨origin, bytes⟩]) :
    due b' c none = due b c none := by
  rw [due, due, h, heard_concat_own hjoined hown]

/-- More messages, for a connection that is gone. -/
theorem due_left {c : Conn} {left : Nat} (hleft : left ≤ b.log.length)
    {more : List (Entry Nat (List UInt8))} (h : b'.log = b.log ++ more) :
    due b' c (some left) = due b c (some left) := by
  rw [due, due, h, heard_append_of_left hleft]

/-- A connection that is given up now. -/
theorem due_leave (b : Bus) (c : Conn) : due b c (some b.log.length) = due b c none := by
  rw [due, due, heard_leave]

/-- Whoever is gone is sent nothing more. -/
theorem Delivered.still (h : Delivered b) {more : List (Entry Nat (List UInt8))}
    (hlog : b'.log = b.log ++ more) {g : Gone} (hg : g ∈ b.gone) :
    g.left ≤ b'.log.length ∧ (g.cut = false → Sent b' g.peer.sock (some g.left)) ∧
      (g.cut = true → SentUpTo b' g.peer.sock g.left) := by
  have hleft := h.left g hg
  refine ⟨?_, fun hcut => ?_, fun hcut => ?_⟩
  · rw [hlog, List.length_append]
    omega
  · rw [Sent, due_left hleft hlog]
    exact h.dropped g hg hcut
  · rw [SentUpTo, due_left hleft hlog]
    exact h.severed g hg hcut

theorem Delivered.reads (h : Delivered b) (hp : b.peers i = some p) (rest : Socket) :
    Delivered (b.seat i (some (p.reads rest))) where
  joined := by
    intro j q hq
    rcases seat_cases hq with ⟨rfl, hnew⟩ | ⟨-, hold⟩
    · rw [← Option.some.inj hnew]
      exact h.joined j p hp
    · exact h.joined j q hold
  seated := by
    intro j q hq
    rcases seat_cases hq with ⟨rfl, hnew⟩ | ⟨-, hold⟩
    · rw [← Option.some.inj hnew]
      exact h.seated j p hp
    · exact h.seated j q hold
  left := h.left
  dropped := h.dropped
  severed := h.severed

theorem Delivered.vacate (h : Delivered b) (hp : b.peers i = some p) :
    Delivered (b.vacated i p) where
  joined := fun j q hq => h.joined j q (vacated_cases hq).2
  seated := fun j q hq => h.seated j q (vacated_cases hq).2
  left := by
    intro g hg
    rcases List.mem_append.mp hg with hold | hnew
    · exact h.left g hold
    · rw [List.mem_singleton.mp hnew]
      exact Nat.le_refl _
  dropped := by
    intro g hg hcut
    rcases List.mem_append.mp hg with hold | hnew
    · exact h.dropped g hold hcut
    · rw [List.mem_singleton.mp hnew]
      show Carried (MayCut p.sock.torn) (due b p.sock (some b.log.length)) p.sock.outbox
      rw [due_leave]
      exact h.seated i p hp
  severed := by
    intro g hg hcut
    rcases List.mem_append.mp hg with hold | hnew
    · exact h.severed g hold hcut
    · rw [List.mem_singleton.mp hnew] at hcut
      exact Bool.noConfusion hcut

theorem Delivered.relay (h : Delivered b) (origin : Option Nat) (bytes : List UInt8) :
    Delivered (relayBytes b origin bytes) where
  joined := by
    intro j q hq
    rw [length_relayed]
    obtain ⟨p, hp, ⟨-, rfl⟩ | ⟨-, sends, rfl⟩⟩ := relayed_peer hq
    · exact Nat.le_succ_of_le (h.joined j _ hp)
    · exact Nat.le_succ_of_le (h.joined j p hp)
  seated := by
    intro j q hq
    obtain ⟨p, hp, ⟨hown, rfl⟩ | ⟨hother, sends, rfl⟩⟩ := relayed_peer hq
    · -- the peer that the bytes come from is not sent them
      rw [Sent, due_own (h.joined j _ hp) hown rfl]
      exact h.seated j _ hp
    · have hnow := due_other (h.joined j p hp) hother
        (show (relayBytes b origin bytes).log = b.log ++ [⟨origin, bytes⟩] from rfl)
      show Carried (MayCut p.sock.torn) (due (relayBytes b origin bytes) p.sock none)
        (p.sock.outbox ++ bytes)
      rw [hnow]
      exact (h.seated j p hp).whole ⟨origin, bytes⟩
  left := by
    intro g hg
    rcases relayed_gone hg with hold | ⟨i, p, n, sends, hp, -, -, rfl⟩
    · exact (h.still rfl hold).1
    · rw [length_relayed]
  dropped := by
    intro g hg hcut
    rcases relayed_gone hg with hold | ⟨i, p, n, sends, hp, hother, -, rfl⟩
    · exact (h.still rfl hold).2.1 hcut
    · exact Bool.noConfusion hcut
  severed := by
    intro g hg hcut
    rcases relayed_gone hg with hold | ⟨i, p, n, sends, hp, hother, -, rfl⟩
    · exact (h.still rfl hold).2.2 hcut
    · -- the relay stopped somewhere in its bytes
      have hnow := due_other (h.joined i p hp) hother
        (show (relayBytes b origin bytes).log = b.log ++ [⟨origin, bytes⟩] from rfl)
      have hleave := due_leave (relayBytes b origin bytes) p.sock
      rw [length_relayed, hnow] at hleave
      exact ⟨due b p.sock none, ⟨origin, bytes⟩, p.sock.outbox, bytes.take n, hleave,
        h.seated i p hp, List.take_prefix n bytes, rfl⟩

theorem Delivered.tick (h : Delivered b) (bytes : List UInt8) : Delivered (eachPeer b bytes) where
  joined := by
    intro j q hq
    obtain ⟨p, n, sends, torn, hp, rfl, -⟩ := ticked_peer hq
    rw [length_ticked]
    exact Nat.le_succ_of_le (h.joined j p hp)
  seated := by
    intro j q hq
    obtain ⟨p, n, sends, torn, hp, rfl, hwhole⟩ := ticked_peer hq
    have hnow := due_other (h.joined j p hp) (show (none : Option Nat) ≠ some p.sock.handle from
      (Option.some_ne_none _).symm) (show (eachPeer b bytes).log = b.log ++ [⟨none, bytes⟩] from rfl)
    show Carried (MayCut torn) (due (eachPeer b bytes) p.sock none)
      (p.sock.outbox ++ bytes.take n)
    rw [hnow]
    cases torn with
    | false =>
        obtain ⟨hbefore, hn⟩ := hwhole rfl
        have hold : Carried (MayCut p.sock.torn) (due b p.sock none) p.sock.outbox := h.seated j p hp
        rw [hn, List.take_length]
        rw [hbefore] at hold
        exact hold.whole ⟨none, bytes⟩
    | true =>
        -- this send failed, or an earlier one
        have hold : Carried (MayCut true) (due b p.sock none) p.sock.outbox :=
          (h.seated j p hp).mono fun e hcut => ⟨rfl, hcut.2⟩
        exact hold.part ⟨none, bytes⟩ ⟨rfl, rfl⟩ (List.take_prefix n bytes)
  left := fun g hg => (h.still rfl hg).1
  dropped := fun g hg => (h.still rfl hg).2.1
  severed := fun g hg => (h.still rfl hg).2.2

theorem Delivered.join (h : Delivered b) (i : Fin maxPeers) (a : Arrival)
    (user : Option (Fin maxPeers)) : Delivered (b.seat i (some (newPeer b a user))).counted where
  joined := by
    intro j q hq
    rcases seat_cases hq with ⟨-, hnew⟩ | ⟨-, hold⟩
    · rw [← Option.some.inj hnew]
      exact Nat.le_refl _
    · exact h.joined j q hold
  seated := by
    intro j q hq
    rcases seat_cases hq with ⟨-, hnew⟩ | ⟨-, hold⟩
    · rw [← Option.some.inj hnew]
      show Carried _ (heard b.accepted b.log.length none b.log) []
      rw [heard_start]
      exact .nil
    · exact h.seated j q hold
  left := h.left
  dropped := h.dropped
  severed := h.severed

theorem Delivered.drop (h : Delivered b) (hp : b.peers i = some p) : Delivered (dropPeer b i) := by
  have hvacated := h.vacate hp
  rcases dropPeer_cases hp with ⟨-, heq⟩ | ⟨u, port, -, -, heq⟩ | ⟨u, port, -, -, heq⟩
  · rw [heq]
    exact hvacated
  · rw [heq]
    exact hvacated.transfer rfl rfl rfl
  · rw [heq]
    have hrows : Delivered ((b.vacated i p).traced
        [.disconnected port, .frame .loss (toFrame (fillPeerLoss (b.peerPool u)))]) :=
      hvacated.transfer rfl rfl rfl
    have hrelay := hrows.relay (some p.sock.handle) (wireBytes (fillPeerLoss (b.peerPool u)))
    exact hrelay.transfer rfl rfl rfl

theorem delivered_act (hact : HubAct b b') (h : Delivered b) : Delivered b' := by
  cases hact with
  | refused => exact h.transfer rfl rfl rfl
  | tracked i a u _ _ =>
      have hjoin := h.join i a (some u)
      exact hjoin.transfer rfl rfl rfl
  | untracked i a _ _ => exact h.join i a none
  | announced i p f rest hp _ _ _ =>
      have hreads := h.reads hp rest
      have hemit : Delivered (emitFrameTrace
          ((b.seat i (some (p.reads rest))).pooled (recorded b p f)) f .announce) :=
        hreads.transfer rfl rfl rfl
      exact hemit.relay _ _
  | passed i p f rest ac hp _ _ _ _ =>
      have hreads := h.reads hp rest
      have hemit : Delivered (emitFrameTrace (b.seat i (some (p.reads rest))) f ac) :=
        hreads.transfer rfl rfl rfl
      have hrelay := hemit.relay (some p.sock.handle) (wireBytes f)
      rw [pcanBridgeSendIfOpen]
      split
      · exact hrelay
      · split
        · exact hrelay
        · exact hrelay.transfer rfl rfl rfl
  | dropped i p rest rows hp _ =>
      have hreads := h.reads hp rest
      have hseat : ((b.seat i (some (p.reads rest))).traced rows).peers i = some (p.reads rest) :=
        Function.update_self i _ b.peers
      exact Delivered.drop (hreads.transfer rfl rfl rfl) hseat
  | bridged m f _ _ =>
      have hemit : Delivered (emitFrameTrace b f (pcanAction f m.id)) := h.transfer rfl rfl rfl
      exact hemit.tick _

theorem delivered_run (quiet pcanOpen : Bool) (rounds : List Selected) :
    Delivered (busRun quiet pcanOpen rounds) :=
  busRun_invariant (fun _ _ hact h => delivered_act hact h) (delivered_start quiet pcanOpen) rounds

end Delivery

/-! ## What comes from a peer -/

section Consumption

variable {b b' : Bus} {i : Fin maxPeers} {p : BusPeer} {rest : Socket} {f : RawFrame}
  {origin : Option Nat} {bytes : List UInt8} {h : Nat}

/-- The id in the first four bytes of a message. -/
def wireId (bytes : List UInt8) : UInt32 :=
  getU32le (bytes.getD 0 0) (bytes.getD 1 0) (bytes.getD 2 0) (bytes.getD 3 0) &&& canIdValue

theorem wireId_wireBytes (f : RawFrame) : wireId (wireBytes f) = frameIdValue f :=
  congrArg (· &&& canIdValue) (getU32le_split f.canId)

/-- What went over the bus for a peer while it was there; its loss is told by the hub. -/
def spoken (h : Nat) (log : List (Entry Nat (List UInt8))) : List (Entry Nat (List UInt8)) :=
  (said h log).filter fun e => wireId e.message ≠ simPeerLoss

theorem spoken_other (hother : origin ≠ some h) (log : List (Entry Nat (List UInt8))) :
    spoken h (log ++ [⟨origin, bytes⟩]) = spoken h log := by
  rw [spoken, said_concat_other hother]
  rfl

theorem spoken_own (hown : origin = some h) (hid : wireId bytes ≠ simPeerLoss)
    (log : List (Entry Nat (List UInt8))) :
    spoken h (log ++ [⟨origin, bytes⟩]) = spoken h log ++ [⟨origin, bytes⟩] := by
  rw [spoken, said_concat_own hown, List.filter_append, List.filter_singleton, decide_eq_true hid]
  rfl

theorem spoken_loss (hid : wireId bytes = simPeerLoss) (log : List (Entry Nat (List UInt8))) :
    spoken h (log ++ [⟨origin, bytes⟩]) = spoken h log := by
  by_cases hown : origin = some h
  · rw [spoken, said_concat_own hown, List.filter_append, List.filter_singleton,
      decide_eq_false (not_not.mpr hid)]
    exact List.append_nil _
  · exact spoken_other hown log

/-- What came over the connections: the messages of a peer in the table and what was not read yet
    are all of it, and the messages of one that is gone are its beginning. -/
structure Consumed (b : Bus) : Prop where
  seated : ∀ i p, b.peers i = some p →
    p.sock.stream = wire (said p.sock.handle b.log) ++ p.sock.inbox.flatten
  own : ∀ i p, b.peers i = some p → spoken p.sock.handle b.log = said p.sock.handle b.log
  gone : ∀ g ∈ b.gone, wire (spoken g.peer.sock.handle b.log) <+: g.peer.sock.stream

/-- Nothing else of the hub counts. -/
theorem Consumed.transfer (h : Consumed b) (hpeers : b'.peers = b.peers)
    (hgone : b'.gone = b.gone) (hlog : b'.log = b.log) : Consumed b' := by
  obtain ⟨hseated, hown, hpart⟩ := h
  simp only [← hpeers, ← hgone, ← hlog] at hseated hown hpart
  exact ⟨hseated, hown, hpart⟩

theorem consumed_start (quiet pcanOpen : Bool) : Consumed (busStart quiet pcanOpen) where
  seated := fun _ p h => absurd h.symm (Option.some_ne_none p)
  own := fun _ p h => absurd h.symm (Option.some_ne_none p)
  gone := fun _ h => absurd h List.not_mem_nil

/-- The messages of a peer in the table are the beginning of what comes from it. -/
theorem Consumed.front (h : Consumed b) (hp : b.peers i = some p) :
    wire (spoken p.sock.handle b.log) <+: p.sock.stream := by
  rw [h.own i p hp, h.seated i p hp]
  exact List.prefix_append _ _

/-- **A frame is read and relayed.** -/
theorem Consumed.pass (h : Consumed b) (hh : Handles b) (hp : b.peers i = some p)
    (htaken : Taken p.sock.inbox f rest) (hid : frameIdValue f ≠ simPeerLoss) :
    Consumed (relayBytes (b.seat i (some (p.reads rest))) (some p.sock.handle) (wireBytes f)) := by
  have hid' : wireId (wireBytes f) ≠ simPeerLoss := by
    rw [wireId_wireBytes]
    exact hid
  -- a peer of another slot has another socket
  have hother : ∀ j q, j ≠ i → b.peers j = some q →
      some p.sock.handle ≠ some q.sock.handle := fun j q hji hq heq =>
    hji (hh.apart j i q p hq hp (Option.some.inj heq).symm)
  have hslot : ∀ j q, (relayBytes (b.seat i (some (p.reads rest))) (some p.sock.handle)
      (wireBytes f)).peers j = some q →
      (q.sock.handle = p.sock.handle ∧ q.sock.stream = p.sock.stream ∧ q.sock.inbox = rest) ∨
      ∃ q', b.peers j = some q' ∧ j ≠ i ∧ q.sock.handle = q'.sock.handle ∧
        q.sock.stream = q'.sock.stream ∧ q.sock.inbox = q'.sock.inbox := by
    intro j q hq
    obtain ⟨q', hq', ⟨-, rfl⟩ | ⟨-, sends, rfl⟩⟩ := relayed_peer hq
    · rcases seat_cases hq' with ⟨-, hnew⟩ | ⟨hji, hold⟩
      · rw [← Option.some.inj hnew]
        exact .inl ⟨rfl, rfl, rfl⟩
      · exact .inr ⟨q, hold, hji, rfl, rfl, rfl⟩
    · rcases seat_cases hq' with ⟨-, hnew⟩ | ⟨hji, hold⟩
      · rw [← Option.some.inj hnew]
        exact .inl ⟨rfl, rfl, rfl⟩
      · exact .inr ⟨q', hold, hji, rfl, rfl, rfl⟩
  constructor
  · intro j q hq
    show _ = wire (said q.sock.handle (b.log ++ [⟨some p.sock.handle, wireBytes f⟩])) ++ _
    rcases hslot j q hq with ⟨hhandle, hstream, hinbox⟩ | ⟨q', hq', hji, hhandle, hstream, hinbox⟩
    · rw [hhandle, hstream, hinbox, said_concat_own rfl, wire_concat, List.append_assoc,
        ← htaken.bytes]
      exact h.seated i p hp
    · rw [hhandle, hstream, hinbox, said_concat_other (hother j q' hji hq')]
      exact h.seated j q' hq'
  · intro j q hq
    show spoken q.sock.handle (b.log ++ [⟨some p.sock.handle, wireBytes f⟩])
      = said q.sock.handle (b.log ++ [⟨some p.sock.handle, wireBytes f⟩])
    rcases hslot j q hq with ⟨hhandle, -, -⟩ | ⟨q', hq', hji, hhandle, -, -⟩
    · rw [hhandle, spoken_own rfl hid', said_concat_own rfl, h.own i p hp]
    · rw [hhandle, spoken_other (hother j q' hji hq'), said_concat_other (hother j q' hji hq')]
      exact h.own j q' hq'
  · intro g hg
    show wire (spoken g.peer.sock.handle (b.log ++ [⟨some p.sock.handle, wireBytes f⟩])) <+: _
    rcases relayed_gone hg with hold | ⟨j, q, n, sends, hq, hne, -, rfl⟩
    · have hne : some p.sock.handle ≠ some g.peer.sock.handle := fun heq =>
        hh.left g hold i p hp (Option.some.inj heq)
      rw [spoken_other hne]
      exact h.gone g hold
    · rcases seat_cases hq with ⟨-, hnew⟩ | ⟨hji, hold⟩
      · exact absurd (congrArg (fun r : BusPeer => some r.sock.handle) (Option.some.inj hnew)) hne
      · show wire (spoken q.sock.handle (b.log ++ [⟨some p.sock.handle, wireBytes f⟩])) <+:
          q.sock.stream
        rw [spoken_other hne]
        exact h.front hold

/-- Something was read, and the peer is dropped. -/
theorem Consumed.leave (h : Consumed b) (hp : b.peers i = some p) (rest : Socket) :
    Consumed ((b.seat i (some (p.reads rest))).vacated i (p.reads rest)) := by
  have hold : ∀ j q, ((b.seat i (some (p.reads rest))).vacated i (p.reads rest)).peers j = some q →
      b.peers j = some q := by
    intro j q hq
    obtain ⟨hji, hseat⟩ := vacated_cases hq
    rcases seat_cases hseat with ⟨heq, -⟩ | ⟨-, hold⟩
    · exact absurd heq hji
    · exact hold
  refine ⟨fun j q hq => h.seated j q (hold j q hq), fun j q hq => h.own j q (hold j q hq), ?_⟩
  intro g hg
  rcases List.mem_append.mp hg with hbefore | hnew
  · exact h.gone g hbefore
  · rw [List.mem_singleton.mp hnew]
    have hfront := h.front hp
    exact hfront

/-- A relay for nobody in the table, of a loss or of a message that has no origin. -/
theorem Consumed.relay (h : Consumed b)
    (hseated : ∀ i p, b.peers i = some p → origin ≠ some p.sock.handle)
    (hgone : ∀ k, origin = some k → wireId bytes = simPeerLoss) :
    Consumed (relayBytes b origin bytes) := by
  have hspoken : ∀ k, spoken k (b.log ++ [⟨origin, bytes⟩]) = spoken k b.log := by
    intro k
    by_cases hk : origin = some k
    · exact spoken_loss (hgone k hk) b.log
    · exact spoken_other hk b.log
  constructor
  · intro j q hq
    show _ = wire (said q.sock.handle (b.log ++ [⟨origin, bytes⟩])) ++ _
    obtain ⟨p, hp, ⟨hown, rfl⟩ | ⟨hother, sends, rfl⟩⟩ := relayed_peer hq
    · exact absurd hown (hseated j _ hp)
    · show p.sock.stream = wire (said p.sock.handle (b.log ++ [⟨origin, bytes⟩])) ++ _
      rw [said_concat_other (show (⟨origin, bytes⟩ : Entry _ _).origin ≠ _ from hother)]
      exact h.seated j p hp
  · intro j q hq
    show spoken q.sock.handle (b.log ++ [⟨origin, bytes⟩])
      = said q.sock.handle (b.log ++ [⟨origin, bytes⟩])
    obtain ⟨p, hp, ⟨hown, rfl⟩ | ⟨hother, sends, rfl⟩⟩ := relayed_peer hq
    · exact absurd hown (hseated j _ hp)
    · rw [hspoken]
      show _ = said p.sock.handle (b.log ++ [⟨origin, bytes⟩])
      rw [said_concat_other (show (⟨origin, bytes⟩ : Entry _ _).origin ≠ _ from hother)]
      exact h.own j p hp
  · intro g hg
    show wire (spoken g.peer.sock.handle (b.log ++ [⟨origin, bytes⟩])) <+: _
    rw [hspoken]
    rcases relayed_gone hg with hold | ⟨j, p, n, sends, hp, -, -, rfl⟩
    · exact h.gone g hold
    · have hfront := h.front hp
      exact hfront

theorem Consumed.tick (h : Consumed b) (bytes : List UInt8) : Consumed (eachPeer b bytes) := by
  have hnone : ∀ k, (none : Option Nat) ≠ some k := fun k => (Option.some_ne_none k).symm
  constructor
  · intro j q hq
    show _ = wire (said q.sock.handle (b.log ++ [⟨none, bytes⟩])) ++ _
    obtain ⟨p, n, sends, torn, hp, rfl, -⟩ := ticked_peer hq
    rw [said_concat_other (hnone _)]
    exact h.seated j p hp
  · intro j q hq
    show spoken q.sock.handle (b.log ++ [⟨none, bytes⟩])
      = said q.sock.handle (b.log ++ [⟨none, bytes⟩])
    obtain ⟨p, n, sends, torn, hp, rfl, -⟩ := ticked_peer hq
    rw [said_concat_other (hnone _), spoken_other (hnone _)]
    exact h.own j p hp
  · intro g hg
    show wire (spoken g.peer.sock.handle (b.log ++ [⟨none, bytes⟩])) <+: _
    rw [spoken_other (hnone _)]
    exact h.gone g hg

theorem Consumed.join (h : Consumed b) (hh : Handles b) (i : Fin maxPeers) (a : Arrival)
    (user : Option (Fin maxPeers)) :
    Consumed (b.seat i (some (newPeer b a user))).counted := by
  have hfresh : said b.accepted b.log = [] := said_eq_nil fun e he heq =>
    Nat.lt_irrefl _ (hh.said e he b.accepted heq)
  refine ⟨fun j q hq => ?_, fun j q hq => ?_, h.gone⟩
  · rcases seat_cases hq with ⟨-, hnew⟩ | ⟨-, hold⟩
    · rw [← Option.some.inj hnew]
      show a.inbox.flatten = wire (said b.accepted b.log) ++ a.inbox.flatten
      rw [hfresh]
      rfl
    · exact h.seated j q hold
  · rcases seat_cases hq with ⟨-, hnew⟩ | ⟨-, hold⟩
    · rw [← Option.some.inj hnew]
      show spoken b.accepted b.log = said b.accepted b.log
      rw [spoken, hfresh]
      rfl
    · exact h.own j q hold

/-- The id of a loss. -/
theorem fillPeerLoss_id (p : FdPeer) : frameIdValue (fillPeerLoss p) = simPeerLoss := by
  show (frameInit simPeerLoss true).canId &&& canIdValue = simPeerLoss
  decide

theorem consumed_act (hact : HubAct b b') (hh : Handles b) (h : Consumed b) : Consumed b' := by
  cases hact with
  | refused => exact h.transfer rfl rfl rfl
  | tracked i a u _ _ => exact (h.join hh i a (some u)).transfer rfl rfl rfl
  | untracked i a _ _ => exact h.join hh i a none
  | announced i p f rest hp htaken hid _ =>
      have hne : frameIdValue f ≠ simPeerLoss := by
        rw [hid]
        decide
      exact (h.pass hh hp htaken hne).transfer rfl rfl rfl
  | passed i p f rest ac hp htaken _ hsim _ =>
      have hne : frameIdValue f ≠ simPeerLoss := by
        intro heq
        rw [heq] at hsim
        exact absurd hsim (by decide)
      have hpass := h.pass hh hp htaken hne
      rw [pcanBridgeSendIfOpen]
      split
      · exact hpass.transfer rfl rfl rfl
      · split
        · exact hpass.transfer rfl rfl rfl
        · exact hpass.transfer rfl rfl rfl
  | dropped i p rest rows hp _ =>
      have hleave := h.leave hp rest
      have hseat : ((b.seat i (some (p.reads rest))).traced rows).peers i = some (p.reads rest) :=
        Function.update_self i _ b.peers
      rcases dropPeer_cases hseat with ⟨-, heq⟩ | ⟨u, port, -, -, heq⟩ | ⟨u, port, -, -, heq⟩
      · rw [heq]
        exact hleave.transfer rfl rfl rfl
      · rw [heq]
        exact hleave.transfer rfl rfl rfl
      · rw [heq]
        -- the loss is told in the name of a socket that is in no slot
        have hgone : Handles ((b.seat i (some (p.reads rest))).vacated i (p.reads rest)) :=
          (hh.reads hp rest).vacate (Function.update_self i _ b.peers)
        have hrelay : Consumed (relayBytes
            ((b.seat i (some (p.reads rest))).vacated i (p.reads rest)) (some p.sock.handle)
            (wireBytes (fillPeerLoss (b.peerPool u)))) := by
          refine hleave.relay (fun j q hq heq => ?_) fun k _ => ?_
          · have hmem : (⟨p.reads rest, b.log.length, false⟩ : Gone) ∈
                ((b.seat i (some (p.reads rest))).vacated i (p.reads rest)).gone :=
              List.mem_append_right _ (List.mem_singleton_self _)
            exact hgone.left _ hmem j q hq (Option.some.inj heq).symm
          · rw [wireId_wireBytes, fillPeerLoss_id]
        exact hrelay.transfer rfl rfl rfl
  | bridged m f _ _ => exact (h.tick (wireBytes f)).transfer rfl rfl rfl

theorem consumed_run (quiet pcanOpen : Bool) (rounds : List Selected) :
    Handles (busRun quiet pcanOpen rounds) ∧ Consumed (busRun quiet pcanOpen rounds) := by
  refine busRun_invariant (I := fun b => Handles b ∧ Consumed b) (fun b b' hact h => ?_)
    ⟨handles_start quiet pcanOpen, consumed_start quiet pcanOpen⟩ rounds
  exact ⟨handles_act hact h.1, consumed_act hact h.1 h.2⟩

end Consumption

/-! ## What goes over the bus -/

section Traffic

variable {b b' : Bus} {i : Fin maxPeers} {p : BusPeer} {rest : Socket} {f : RawFrame}
  {origin : Option Nat} {gone gone' : List Gone}

/-- What goes over the bus, and for whom: USDO frames and announcements of peers, the loss of a
    peer that had announced itself and was dropped, and frames of the adapter.  The adapter has no
    frame with an id of the simulator, unless it hands out an id with flag bits in it. -/
inductive Lawful (gone : List Gone) : Option Nat → RawFrame → Prop
  | usdo (h : Nat) (f : RawFrame) (hsim : canIdIsSimOnly (frameIdValue f) = false)
      (husdo : UsdoFrame f) : Lawful gone (some h) f
  | announce (h : Nat) (f : RawFrame) (hid : frameIdValue f = simPeerAnnounce) :
      Lawful gone (some h) f
  | loss (g : Gone) (peer : FdPeer) (hg : g ∈ gone) (hcut : g.cut = false)
      (hann : peer.announced = true) : Lawful gone (some g.peer.sock.handle) (fillPeerLoss peer)
  | adapter (m : PcanMsg) (f : RawFrame) (hm : pcanReadFrame m = some f)
      (hid : m.id ≤ canIdValue → canIdIsSimOnly (frameIdValue f) = false) : Lawful gone none f

theorem Lawful.mono (hsub : ∀ g ∈ gone, g ∈ gone') (h : Lawful gone origin f) :
    Lawful gone' origin f := by
  cases h with
  | usdo h f hsim husdo => exact .usdo h f hsim husdo
  | announce h f hid => exact .announce h f hid
  | loss g peer hg hcut hann => exact .loss g peer (hsub g hg) hcut hann
  | adapter m f hm hid => exact .adapter m f hm hid

/-- Every message is the bytes of a valid frame that may go over the bus. -/
def TrafficLawful (b : Bus) : Prop :=
  ∀ e ∈ b.log, ∃ f, e.message = wireBytes f ∧ frameValidate f = .ok ∧ Lawful b.gone e.origin f

/-- The id of a frame that the adapter handed out without flag bits. -/
theorem pcanReadFrame_id {m : PcanMsg} (hm : pcanReadFrame m = some f) (hid : m.id ≤ canIdValue) :
    canIdIsSimOnly (frameIdValue f) = false := by
  obtain ⟨-, hsim⟩ := pcanReadFrame_valid hm
  have hframe : f = pcanFrame m := by
    rw [pcanReadFrame] at hm
    split at hm
    · exact absurd hm.symm (Option.some_ne_none f)
    · split at hm
      · exact absurd hm.symm (Option.some_ne_none f)
      · split at hm
        · exact absurd hm.symm (Option.some_ne_none f)
        · exact (Option.some.inj hm).symm
  have hmask : ∀ x flag : UInt32, x ≤ canIdValue → flag = canIdFlagIde ∨ flag = 0 →
      ((x &&& canIdValue) ||| flag) &&& canIdValue = x := by
    intro x flag hx hflag
    have hlow : x &&& canIdValue = x := by
      apply UInt32.toNat_inj.mp
      rw [UInt32.toNat_and]
      have hlt : x.toNat ≤ 2 ^ 29 - 1 := UInt32.le_iff_toNat_le.mp hx
      show x.toNat &&& (2 ^ 29 - 1) = x.toNat
      rw [Nat.and_two_pow_sub_one_eq_mod]
      exact Nat.mod_eq_of_lt (by omega)
    rcases hflag with rfl | rfl
    · have hflags : canIdFlagIde.toNat &&& canIdValue.toNat = 0 := by decide
      have hnat := congrArg UInt32.toNat hlow
      rw [UInt32.toNat_and] at hnat
      rw [hlow]
      apply UInt32.toNat_inj.mp
      rw [UInt32.toNat_and, UInt32.toNat_or, Nat.and_or_distrib_right, hnat, hflags, Nat.or_zero]
    · rw [hlow, UInt32.or_zero, hlow]
  rw [hframe]
  have hvalue : frameIdValue (pcanFrame m) = m.id := by
    rw [frameIdValue, pcanFrame, frameInit]
    dsimp only
    split
    · exact hmask m.id _ hid (.inl rfl)
    · exact hmask m.id _ hid (.inr rfl)
  rw [hvalue]
  exact hsim

/-- One more message. -/
theorem TrafficLawful.grow (h : TrafficLawful b) (hlog : b'.log = b.log ++ [⟨origin, wireBytes f⟩])
    (hsub : ∀ g ∈ b.gone, g ∈ b'.gone) (hvalid : frameValidate f = .ok)
    (hlawful : Lawful b'.gone origin f) : TrafficLawful b' := by
  intro e he
  rw [hlog] at he
  rcases List.mem_append.mp he with hold | hnew
  · obtain ⟨g, hbytes, hok, hwhom⟩ := h e hold
    exact ⟨g, hbytes, hok, hwhom.mono hsub⟩
  · rw [List.mem_singleton.mp hnew]
    exact ⟨f, rfl, hvalid, hlawful⟩

/-- No message more. -/
theorem TrafficLawful.still (h : TrafficLawful b) (hlog : b'.log = b.log)
    (hsub : ∀ g ∈ b.gone, g ∈ b'.gone) : TrafficLawful b' := by
  intro e he
  rw [hlog] at he
  obtain ⟨f, hbytes, hok, hwhom⟩ := h e he
  exact ⟨f, hbytes, hok, hwhom.mono hsub⟩

theorem lawful_act (hact : HubAct b b') (h : TrafficLawful b) : TrafficLawful b' := by
  cases hact with
  | refused => exact h.still rfl fun _ hg => hg
  | tracked i a u _ _ => exact h.still rfl fun _ hg => hg
  | untracked i a _ _ => exact h.still rfl fun _ hg => hg
  | announced i p f rest _ htaken hid _ =>
      exact h.grow rfl (fun _ hg => List.mem_append_left _ hg) htaken.valid (.announce _ f hid)
  | passed i p f rest ac _ htaken _ hsim husdo =>
      have hrelay : TrafficLawful (relayBytes (emitFrameTrace (b.seat i (some (p.reads rest))) f ac)
          (some p.sock.handle) (wireBytes f)) :=
        h.grow rfl (fun _ hg => List.mem_append_left _ hg) htaken.valid (.usdo _ f hsim husdo)
      rw [pcanBridgeSendIfOpen]
      split
      · exact hrelay
      · split
        · exact hrelay
        · exact hrelay.still rfl fun _ hg => hg
  | dropped i p rest rows _ _ =>
      have hseat : ((b.seat i (some (p.reads rest))).traced rows).peers i = some (p.reads rest) :=
        Function.update_self i _ b.peers
      rcases dropPeer_cases hseat with ⟨-, heq⟩ | ⟨u, port, -, -, heq⟩ | ⟨u, port, -, hann, heq⟩
      · rw [heq]
        exact h.still rfl fun _ hg => List.mem_append_left _ hg
      · rw [heq]
        exact h.still rfl fun _ hg => List.mem_append_left _ hg
      · rw [heq]
        refine h.grow rfl (fun _ hg => List.mem_append_left _ (List.mem_append_left _ hg))
          (fillPeerLoss_valid _) ?_
        have hmem : (⟨p.reads rest, b.log.length, false⟩ : Gone) ∈
            (b.vacated i (p.reads rest)).gone :=
          List.mem_append_right _ (List.mem_singleton_self _)
        exact .loss ⟨p.reads rest, b.log.length, false⟩ _ (List.mem_append_left _ hmem) rfl hann
  | bridged m f _ hm =>
      exact h.grow rfl (fun _ hg => hg) (pcanReadFrame_valid hm).1
        (.adapter m f hm (pcanReadFrame_id hm))

theorem lawful_run (quiet pcanOpen : Bool) (rounds : List Selected) :
    TrafficLawful (busRun quiet pcanOpen rounds) :=
  busRun_invariant (fun _ _ hact h => lawful_act hact h) (fun _ h => absurd h List.not_mem_nil)
    rounds

end Traffic

/-! ## The results -/

section Results

/-- **The hub is a broadcast medium**: after any rounds, a peer in the table has been sent what the
    others said since it connected, in the order of the bus, and one that was dropped had been sent
    this up to then; one that a relay gave up had been sent the last message in part.  Every
    message is whole, but for those of the adapter on a connection on which a send of an idle tick
    failed: so a connection of which no such send failed was sent exactly the bytes of these
    messages, or a front part of them if a relay gave it up. -/
theorem hub_broadcast (quiet pcanOpen : Bool) (rounds : List Selected) :
    (∀ i p, (busRun quiet pcanOpen rounds).peers i = some p →
      Sent (busRun quiet pcanOpen rounds) p.sock none ∧
      (p.sock.torn = false → p.sock.outbox = wire
        (heard p.sock.handle p.sock.joined none (busRun quiet pcanOpen rounds).log))) ∧
    ∀ g ∈ (busRun quiet pcanOpen rounds).gone,
      (g.cut = false → Sent (busRun quiet pcanOpen rounds) g.peer.sock (some g.left)) ∧
      (g.cut = true → SentUpTo (busRun quiet pcanOpen rounds) g.peer.sock g.left) ∧
      (g.peer.sock.torn = false →
        (g.peer.sock.outbox <+: wire (heard g.peer.sock.handle g.peer.sock.joined (some g.left)
          (busRun quiet pcanOpen rounds).log)) ∧
        (g.cut = false → g.peer.sock.outbox = wire (heard g.peer.sock.handle g.peer.sock.joined
          (some g.left) (busRun quiet pcanOpen rounds).log))) := by
  have h := delivered_run quiet pcanOpen rounds
  refine ⟨fun i p hp => ⟨h.seated i p hp, carried_whole (h.seated i p hp)⟩, fun g hg =>
    ⟨h.dropped g hg, h.severed g hg, fun htorn => ⟨?_, fun hcut => ?_⟩⟩⟩
  · cases hcut : g.cut with
    | false =>
        rw [carried_whole (h.dropped g hg hcut) htorn]
        exact List.prefix_refl _
    | true => exact (h.severed g hg hcut).front htorn
  · exact carried_whole (h.dropped g hg hcut) htorn

/-- An adapter frame of which one byte is taken before the send fails, and another one. -/
def sampleTorn : List Selected :=
  let m : PcanMsg := ⟨0x123, pcanMessageFd, 0, zero 64⟩
  [.ready (some ⟨7, [], [some 0, none]⟩) (fun _ => false) fun _ => ⟨0, 0, 0, zero 64⟩,
    .timeout [m], .timeout [m]]

/-- The peer stays, with a byte in front of the second frame. -/
example : ((busRun false true sampleTorn).peers ⟨0, by decide⟩).map
      (fun p => (p.sock.torn, p.sock.outbox))
    = some (true, [0x23] ++ [0x23, 0x01, 0, 0, 0, 0]) := by decide +kernel

/-- **First in, first out, and one order**: what went over the bus for a peer in the table is what
    came from it as far as it was read, byte for byte, and for a peer that is gone the beginning
    of what came from it.  Of what neither of two peers said, the one that connected later was
    sent the end of what the other was sent, and of what the other said, the end.  A connection on
    which a send of an idle tick failed may have been sent messages of the adapter in part. -/
theorem hub_fifo (quiet pcanOpen : Bool) (rounds : List Selected) :
    (∀ i p, (busRun quiet pcanOpen rounds).peers i = some p →
      p.sock.stream
        = wire (said p.sock.handle (busRun quiet pcanOpen rounds).log) ++ p.sock.inbox.flatten) ∧
    (∀ g ∈ (busRun quiet pcanOpen rounds).gone,
      wire (spoken g.peer.sock.handle (busRun quiet pcanOpen rounds).log) <+:
        g.peer.sock.stream) ∧
    ∀ i j p q, (busRun quiet pcanOpen rounds).peers i = some p →
      (busRun quiet pcanOpen rounds).peers j = some q → i ≠ j → p.sock.joined ≤ q.sock.joined →
      ∃ es es', es = due (busRun quiet pcanOpen rounds) p.sock none ∧
        es' = due (busRun quiet pcanOpen rounds) q.sock none ∧
        Carried (MayCut p.sock.torn) es p.sock.outbox ∧
        Carried (MayCut q.sock.torn) es' q.sock.outbox ∧
        (p.sock.torn = false → p.sock.outbox = wire es) ∧
        (q.sock.torn = false → q.sock.outbox = wire es') ∧
        ((es'.filter fun e => !e.own p.sock.handle) <:+
          es.filter fun e => !e.own q.sock.handle) ∧
        (es'.filter fun e => e.own p.sock.handle) <:+
          said p.sock.handle (busRun quiet pcanOpen rounds).log := by
  obtain ⟨hh, hc⟩ := consumed_run quiet pcanOpen rounds
  refine ⟨hc.seated, hc.gone, fun i j p q hp hq hij hjoined => ?_⟩
  have hseated := (delivered_run quiet pcanOpen rounds).seated
  refine ⟨_, _, rfl, rfl, hseated i p hp, hseated j q hq, carried_whole (hseated i p hp),
    carried_whole (hseated j q hq), total_order hjoined, ?_⟩
  -- what `p` said is not what `q` said, so `q` heard all of it that came after `q` joined
  have hne : p.sock.handle ≠ q.sock.handle := fun heq => hij (hh.apart i j p q hp hq heq)
  have hown : ∀ e : Entry Nat (List UInt8), (e.own p.sock.handle && !e.own q.sock.handle)
      = e.own p.sock.handle := by
    intro e
    by_cases hp' : e.own p.sock.handle = true
    · have hq' : e.own q.sock.handle = false := by
        by_contra hyes
        have horigin := own_iff.mp hp'
        rw [own_iff.mp (Bool.eq_true_of_not_eq_false hyes)] at horigin
        exact hne (Option.some.inj horigin).symm
      rw [hp', hq']
      rfl
    · rw [Bool.eq_false_of_not_eq_true hp', Bool.false_and]
  rw [due, heard, during, Option.elim_none, others, List.filter_filter]
  simp only [hown]
  exact (List.drop_suffix _ _).filter _

/-- The message that a frame is. -/
def frameEntry (x : Option Nat × RawFrame) : Entry Nat (List UInt8) := ⟨x.1, wireBytes x.2⟩

/-- Messages that are each the bytes of some frame with a property. -/
theorem exists_frames {es : List (Entry Nat (List UInt8))} {P : Option Nat → RawFrame → Prop}
    (h : ∀ e ∈ es, ∃ f, e.message = wireBytes f ∧ P e.origin f) :
    ∃ sent : List (Option Nat × RawFrame), es = sent.map frameEntry ∧
      ∀ x ∈ sent, P x.1 x.2 := by
  induction es with
  | nil => exact ⟨[], rfl, fun x hx => absurd hx List.not_mem_nil⟩
  | cons e es ih =>
      obtain ⟨f, hbytes, hP⟩ := h e List.mem_cons_self
      obtain ⟨sent, rfl, hall⟩ := ih fun e' he' => h e' (List.mem_cons_of_mem e he')
      refine ⟨(e.origin, f) :: sent, ?_, ?_⟩
      · rw [List.map_cons, frameEntry, ← hbytes]
      · intro x hx
        rcases List.mem_cons.mp hx with rfl | hmem
        · exact hP
        · exact hall x hmem

theorem wire_frames (sent : List (Option Nat × RawFrame)) :
    wire (sent.map frameEntry) = (sent.map Prod.snd).flatMap wireBytes := by
  rw [wire, List.flatMap_map, List.flatMap_map]
  rfl

end Results

end SofaHub
