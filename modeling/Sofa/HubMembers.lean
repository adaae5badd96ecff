import Sofa.HubDelivery

/-! # Who is on the bus

    A peer announces itself with its role, its node id and its name, and when its connection ends
    the hub tells the others with the same three.  For this the hub keeps a place in a pool for
    each connection.

    * **`hub_places`**: a place that is in use belongs to one peer of the table, or to one that a
      relay gave up; as long as no relay fails, every connection gets a place;
    * **`hub_membership`**: of a peer with a place the bus carries at most one announcement, and
      after it, if the peer is dropped, exactly one loss;
    * **`loss_repeats`**: the loss has the bytes of the announcement that the client and the server
      send. -/

namespace SofaHub

open ByteBlock FixedBuffer Machine Broadcast SofaDevice SofaUsdo SofaUsdoRaw SofaFraming

/-! ## Places in the pool -/

section Places

variable {b b' : Bus} {i : Fin maxPeers} {p : BusPeer} {rest : Socket} {origin : Option Nat}
  {bytes : List UInt8} {lost : Option (Fin maxPeers)}

/-- The places that are in use belong to the peers of the table, each to one of them, or to peers
    that a relay gave up; `lost` may be one that belongs to nobody at the moment. -/
structure Places (lost : Option (Fin maxPeers)) (b : Bus) : Prop where
  held : ∀ i p u, b.peers i = some p → p.user = some u → b.peerInUse u = true ∧ lost ≠ some u
  apart : ∀ i j p q u, b.peers i = some p → b.peers j = some q →
    p.user = some u → q.user = some u → i = j
  owned : ∀ u, b.peerInUse u = true → lost ≠ some u →
    (∃ i p, b.peers i = some p ∧ p.user = some u) ∨
      ∃ g ∈ b.gone, g.cut = true ∧ g.peer.user = some u

theorem places_start (quiet pcanOpen : Bool) : Places none (busStart quiet pcanOpen) where
  held := fun _ p _ h => absurd h.symm (Option.some_ne_none p)
  apart := fun _ _ p _ _ h => absurd h.symm (Option.some_ne_none p)
  owned := fun _ h => Bool.noConfusion h

/-- Peers keep their places, or a relay gives them up. -/
theorem Places.same (h : Places lost b) (hplaces : b'.peerInUse = b.peerInUse)
    (hpeers : ∀ i q, b'.peers i = some q → ∃ p, b.peers i = some p ∧ q.user = p.user)
    (hkeep : ∀ i p, b.peers i = some p → (∃ q, b'.peers i = some q ∧ q.user = p.user) ∨
      ∃ g ∈ b'.gone, g.cut = true ∧ g.peer.user = p.user)
    (hgone : ∀ g ∈ b.gone, g ∈ b'.gone) : Places lost b' where
  held := by
    intro i q u hq hu
    obtain ⟨p, hp, heq⟩ := hpeers i q hq
    rw [hplaces]
    exact h.held i p u hp (heq ▸ hu)
  apart := by
    intro i j q r u hq hr hqu hru
    obtain ⟨p, hp, hqp⟩ := hpeers i q hq
    obtain ⟨p', hp', hrp⟩ := hpeers j r hr
    exact h.apart i j p p' u hp hp' (hqp ▸ hqu) (hrp ▸ hru)
  owned := by
    intro u hu hlost
    rw [hplaces] at hu
    rcases h.owned u hu hlost with ⟨i, p, hp, hpu⟩ | ⟨g, hg, hcut, hgu⟩
    · rcases hkeep i p hp with ⟨q, hq, heq⟩ | ⟨g, hg, hcut, heq⟩
      · exact .inl ⟨i, q, hq, heq.trans hpu⟩
      · exact .inr ⟨g, hg, hcut, heq.trans hpu⟩
    · exact .inr ⟨g, hgone g hg, hcut, hgu⟩

theorem Places.transfer (h : Places lost b) (hplaces : b'.peerInUse = b.peerInUse)
    (hpeers : b'.peers = b.peers) (hgone : b'.gone = b.gone) : Places lost b' := by
  refine h.same hplaces (fun i q hq => ⟨q, hpeers ▸ hq, rfl⟩)
    (fun i p hp => .inl ⟨p, hpeers ▸ hp, rfl⟩) fun g hg => hgone ▸ hg

theorem Places.reads (h : Places lost b) (hp : b.peers i = some p) (rest : Socket) :
    Places lost (b.seat i (some (p.reads rest))) := by
  refine h.same rfl (fun j q hq => ?_) (fun j q hq => ?_) fun g hg => hg
  · rcases seat_cases hq with ⟨rfl, hnew⟩ | ⟨-, hold⟩
    · rw [← Option.some.inj hnew]
      exact ⟨p, hp, rfl⟩
    · exact ⟨q, hold, rfl⟩
  · by_cases hji : j = i
    · subst hji
      rw [hp] at hq
      rw [← Option.some.inj hq]
      exact .inl ⟨p.reads rest, Function.update_self j _ b.peers, rfl⟩
    · exact .inl ⟨q, (Function.update_of_ne hji _ b.peers).trans hq, rfl⟩

/-- A peer in a relay stays in its slot, or the slot is given up. -/
theorem relayed_keeps (hp : b.peers i = some p) (origin : Option Nat) (bytes : List UInt8) :
    (∃ q, (relayBytes b origin bytes).peers i = some q ∧ q.user = p.user) ∨
      ∃ g ∈ (relayBytes b origin bytes).gone, g.cut = true ∧ g.peer.user = p.user := by
  have huser : (relayPeer origin bytes p).2.user = p.user := by
    rw [relayPeer]
    split <;> rfl
  by_cases hok : (relayPeer origin bytes p).1 = true
  · refine .inl ⟨(relayPeer origin bytes p).2, ?_, huser⟩
    show ((b.peers i).bind fun p =>
      if (relayPeer origin bytes p).1 then some (relayPeer origin bytes p).2 else none) = _
    rw [hp, Option.bind_some, if_pos hok]
  · refine .inr ⟨⟨(relayPeer origin bytes p).2, (relayBytes b origin bytes).log.length, true⟩,
      List.mem_append_right _ (List.mem_filterMap.mpr ⟨i, List.mem_finRange i, ?_⟩), rfl, huser⟩
    rw [hp, Option.bind_some, if_neg hok]
    rfl

theorem Places.relay (h : Places lost b) (origin : Option Nat) (bytes : List UInt8) :
    Places lost (relayBytes b origin bytes) := by
  refine h.same rfl (fun j q hq => ?_) (fun j p hp => relayed_keeps hp origin bytes)
    fun g hg => List.mem_append_left _ hg
  obtain ⟨p, hp, ⟨-, rfl⟩ | ⟨-, sends, rfl⟩⟩ := relayed_peer hq
  · exact ⟨_, hp, rfl⟩
  · exact ⟨p, hp, rfl⟩

theorem Places.tick (h : Places lost b) (bytes : List UInt8) : Places lost (eachPeer b bytes) := by
  refine h.same rfl (fun j q hq => ?_) (fun j p hp => ?_) fun g hg => hg
  · obtain ⟨p, n, sends, torn, hp, rfl, -⟩ := ticked_peer hq
    exact ⟨p, hp, rfl⟩
  · exact .inl ⟨sendToPeerVisitor bytes p, congrArg (Option.map (sendToPeerVisitor bytes)) hp, rfl⟩

/-- A slot is given up, and its place belongs to nobody. -/
theorem Places.vacate (h : Places none b) (hp : b.peers i = some p) :
    Places p.user (b.vacated i p) where
  held := by
    intro j q u hq hu
    obtain ⟨hji, hold⟩ := vacated_cases hq
    refine ⟨(h.held j q u hold hu).1, fun heq => hji ?_⟩
    exact h.apart j i q p u hold hp hu heq
  apart := fun j k q r u hq hr => h.apart j k q r u (vacated_cases hq).2 (vacated_cases hr).2
  owned := by
    intro u hu hne
    rcases h.owned u hu (Option.some_ne_none u).symm with ⟨j, q, hq, hqu⟩ | ⟨g, hg, hcut, hgu⟩
    · refine .inl ⟨j, q, ?_, hqu⟩
      have hji : j ≠ i := by
        intro hji
        subst hji
        rw [hp] at hq
        rw [Option.some.inj hq] at hne
        exact hne hqu
      exact (Function.update_of_ne hji none b.peers).trans hq
    · exact .inr ⟨g, List.mem_append_left _ hg, hcut, hgu⟩

/-- The place is given back. -/
theorem Places.free {u : Fin maxPeers} (h : Places (some u) b) : Places none (b.freed u) where
  held := by
    intro j q v hq hv
    obtain ⟨huse, hne⟩ := h.held j q v hq hv
    have hvu : v ≠ u := fun heq => hne (heq ▸ rfl)
    exact ⟨(freed_other hvu).trans huse, (Option.some_ne_none v).symm⟩
  apart := h.apart
  owned := by
    intro v hv _
    have hvu : v ≠ u := by
      intro heq
      subst heq
      exact Bool.noConfusion (hv.symm.trans (freed_self b v))
    have huse : b.peerInUse v = true := (freed_other hvu).symm.trans hv
    exact h.owned v huse fun heq => hvu (Option.some.inj heq).symm

theorem Places.drop (h : Places none b) (hp : b.peers i = some p) :
    Places none (dropPeer b i) := by
  have hvacated := h.vacate hp
  rcases dropPeer_cases hp with ⟨hu, heq⟩ | ⟨u, port, hu, -, heq⟩ | ⟨u, port, hu, -, heq⟩
  · rw [heq, ← hu]
    exact hvacated
  · rw [hu] at hvacated
    rw [heq]
    have hrows : Places (some u) ((b.vacated i p).traced [.disconnected port]) :=
      hvacated.transfer rfl rfl rfl
    exact hrows.free
  · rw [hu] at hvacated
    rw [heq]
    have hrows : Places (some u) ((b.vacated i p).traced
        [.disconnected port, .frame .loss (toFrame (fillPeerLoss (b.peerPool u)))]) :=
      hvacated.transfer rfl rfl rfl
    exact (hrows.relay _ _).free

/-- A connection that gets a place. -/
theorem Places.track (h : Places none b) (hfree : b.peers i = none) {u : Fin maxPeers}
    (hplace : b.peerInUse u = false) (a : Arrival) :
    Places none ((b.placed u a.tcpPort).seat i (some (newPeer b a (some u)))).counted where
  held := by
    intro j q v hq hv
    refine ⟨?_, (Option.some_ne_none v).symm⟩
    show (b.placed u a.tcpPort).peerInUse v = true
    by_cases hvu : v = u
    · rw [hvu]
      exact placed_self b u a.tcpPort
    · rw [placed_other hvu]
      rcases seat_cases (b := b.placed u a.tcpPort) hq with ⟨-, hnew⟩ | ⟨-, hold⟩
      · rw [← Option.some.inj hnew] at hv
        exact absurd (Option.some.inj hv).symm hvu
      · exact (h.held j q v hold hv).1
  apart := by
    intro j k q r v hq hr hqv hrv
    -- nobody has had the new place
    have hnobody : ∀ l s, b.peers l = some s → s.user ≠ some u := by
      intro l s hs hsu
      rw [(h.held l s u hs hsu).1] at hplace
      exact Bool.noConfusion hplace
    rcases seat_cases (b := b.placed u a.tcpPort) hq with ⟨rfl, hnew⟩ | ⟨-, hold⟩
    · rcases seat_cases (b := b.placed u a.tcpPort) hr with ⟨rfl, -⟩ | ⟨-, hold'⟩
      · rfl
      · rw [← Option.some.inj hnew] at hqv
        exact absurd (hrv.trans hqv.symm) (hnobody k r hold')
    · rcases seat_cases (b := b.placed u a.tcpPort) hr with ⟨rfl, hnew⟩ | ⟨-, hold'⟩
      · rw [← Option.some.inj hnew] at hrv
        exact absurd (hqv.trans hrv.symm) (hnobody j q hold)
      · exact h.apart j k q r v hold hold' hqv hrv
  owned := by
    intro v hv _
    by_cases hvu : v = u
    · refine .inl ⟨i, newPeer b a (some u), Function.update_self i _ b.peers, ?_⟩
      rw [hvu]
      rfl
    · have huse : b.peerInUse v = true := (placed_other hvu a.tcpPort).symm.trans hv
      rcases h.owned v huse (Option.some_ne_none v).symm with ⟨j, q, hq, hqv⟩ | hgone
      · refine .inl ⟨j, q, ?_, hqv⟩
        have hji : j ≠ i := by
          intro hji
          subst hji
          rw [hfree] at hq
          exact absurd hq.symm (Option.some_ne_none q)
        exact (Function.update_of_ne hji _ b.peers).trans hq
      · exact .inr hgone

/-- A connection that gets none. -/
theorem Places.untrack (h : Places none b) (hfree : b.peers i = none) (a : Arrival) :
    Places none (b.seat i (some (newPeer b a none))).counted where
  held := by
    intro j q v hq hv
    rcases seat_cases hq with ⟨-, hnew⟩ | ⟨-, hold⟩
    · rw [← Option.some.inj hnew] at hv
      exact absurd hv.symm (Option.some_ne_none v)
    · exact h.held j q v hold hv
  apart := by
    intro j k q r v hq hr hqv hrv
    rcases seat_cases hq with ⟨-, hnew⟩ | ⟨-, hold⟩
    · rw [← Option.some.inj hnew] at hqv
      exact absurd hqv.symm (Option.some_ne_none v)
    · rcases seat_cases hr with ⟨-, hnew⟩ | ⟨-, hold'⟩
      · rw [← Option.some.inj hnew] at hrv
        exact absurd hrv.symm (Option.some_ne_none v)
      · exact h.apart j k q r v hold hold' hqv hrv
  owned := by
    intro v hv hne
    rcases h.owned v hv hne with ⟨j, q, hq, hqv⟩ | hgone
    · refine .inl ⟨j, q, ?_, hqv⟩
      have hji : j ≠ i := by
        intro hji
        subst hji
        rw [hfree] at hq
        exact absurd hq.symm (Option.some_ne_none q)
      exact (Function.update_of_ne hji _ b.peers).trans hq
    · exact .inr hgone

theorem places_act (hact : HubAct b b') (h : Places none b) : Places none b' := by
  cases hact with
  | refused => exact h.transfer rfl rfl rfl
  | tracked i a u hfree hplace => exact h.track hfree hplace a
  | untracked i a hfree _ => exact h.untrack hfree a
  | announced i p f rest hp _ _ _ =>
      exact ((h.reads hp rest).relay (some p.sock.handle) (wireBytes f)).transfer rfl rfl rfl
  | passed i p f rest ac hp _ _ _ _ =>
      have hrelay := (h.reads hp rest).relay (some p.sock.handle) (wireBytes f)
      rw [pcanBridgeSendIfOpen]
      split
      · exact hrelay.transfer rfl rfl rfl
      · split
        · exact hrelay.transfer rfl rfl rfl
        · exact hrelay.transfer rfl rfl rfl
  | dropped i p rest rows hp _ =>
      have hseat : ((b.seat i (some (p.reads rest))).traced rows).peers i = some (p.reads rest) :=
        Function.update_self i _ b.peers
      have hreads : Places none ((b.seat i (some (p.reads rest))).traced rows) :=
        (h.reads hp rest).transfer rfl rfl rfl
      exact hreads.drop hseat
  | bridged m f _ _ => exact (h.tick (wireBytes f)).transfer rfl rfl rfl

/-- **A place for everybody**: when the table has room and all places are in use, some place
    belongs to a peer that a relay gave up. -/
theorem Places.leak (h : Places none b) (hfree : b.peers i = none)
    (hfull : ∀ u, b.peerInUse u = true) : ∃ g ∈ b.gone, g.cut = true := by
  by_contra hno
  have hseat : ∀ u, ∃ j p, b.peers j = some p ∧ p.user = some u := by
    intro u
    rcases h.owned u (hfull u) (Option.some_ne_none u).symm with hseat | ⟨g, hg, hcut, -⟩
    · exact hseat
    · exact absurd ⟨g, hg, hcut⟩ hno
  -- the slots of the places are all different, so they are all slots, also the free one
  choose slot peer hslot hplace using hseat
  have hinj : Function.Injective slot := by
    intro u v huv
    have hpeer : peer u = peer v :=
      Option.some.inj ((hslot u).symm.trans ((congrArg b.peers huv).trans (hslot v)))
    exact Option.some.inj ((hplace u).symm.trans ((congrArg BusPeer.user hpeer).trans (hplace v)))
  obtain ⟨u, hu⟩ := (Finite.injective_iff_surjective.mp hinj) i
  have hi := hslot u
  rw [hu, hfree] at hi
  exact absurd hi.symm (Option.some_ne_none (peer u))

/-- A connection without a place is there, or was, only after a relay failed. -/
def Tracked (b : Bus) : Prop :=
  ((∃ i p, b.peers i = some p ∧ p.user = none) ∨ ∃ g ∈ b.gone, g.peer.user = none) →
    ∃ g ∈ b.gone, g.cut = true

/-- The table and the list of those that are gone only lose and gain what was there. -/
theorem Tracked.same (h : Tracked b)
    (hpeers : ∀ i q, b'.peers i = some q → ∃ p, b.peers i = some p ∧ q.user = p.user)
    (hgone : ∀ g ∈ b'.gone, g ∈ b.gone ∨ ∃ i p, b.peers i = some p ∧ g.peer.user = p.user)
    (hsub : ∀ g ∈ b.gone, g ∈ b'.gone) : Tracked b' := by
  intro hnone
  have hbefore : (∃ i p, b.peers i = some p ∧ p.user = none) ∨ ∃ g ∈ b.gone, g.peer.user = none := by
    rcases hnone with ⟨i, q, hq, hu⟩ | ⟨g, hg, hu⟩
    · obtain ⟨p, hp, heq⟩ := hpeers i q hq
      exact .inl ⟨i, p, hp, heq.symm.trans hu⟩
    · rcases hgone g hg with hold | ⟨i, p, hp, heq⟩
      · exact .inr ⟨g, hold, hu⟩
      · exact .inl ⟨i, p, hp, heq.symm.trans hu⟩
  obtain ⟨g, hg, hcut⟩ := h hbefore
  exact ⟨g, hsub g hg, hcut⟩

theorem Tracked.reads (h : Tracked b) (hp : b.peers i = some p) (rest : Socket) :
    Tracked (b.seat i (some (p.reads rest))) := by
  refine h.same (fun j q hq => ?_) (fun g hg => .inl hg) fun g hg => hg
  rcases seat_cases hq with ⟨rfl, hnew⟩ | ⟨-, hold⟩
  · rw [← Option.some.inj hnew]
    exact ⟨p, hp, rfl⟩
  · exact ⟨q, hold, rfl⟩

theorem Tracked.relay (h : Tracked b) (origin : Option Nat) (bytes : List UInt8) :
    Tracked (relayBytes b origin bytes) := by
  refine h.same (fun j q hq => ?_) (fun g hg => ?_) fun g hg => List.mem_append_left _ hg
  · obtain ⟨p, hp, ⟨-, rfl⟩ | ⟨-, sends, rfl⟩⟩ := relayed_peer hq
    · exact ⟨_, hp, rfl⟩
    · exact ⟨p, hp, rfl⟩
  · rcases relayed_gone hg with hold | ⟨j, p, n, sends, hp, -, -, rfl⟩
    · exact .inl hold
    · exact .inr ⟨j, p, hp, rfl⟩

theorem Tracked.vacate (h : Tracked b) (hp : b.peers i = some p) : Tracked (b.vacated i p) := by
  refine h.same (fun j q hq => ⟨q, (vacated_cases hq).2, rfl⟩) (fun g hg => ?_)
    fun g hg => List.mem_append_left _ hg
  rcases List.mem_append.mp hg with hold | hnew
  · exact .inl hold
  · rw [List.mem_singleton.mp hnew]
    exact .inr ⟨i, p, hp, rfl⟩

theorem tracked_act (hact : HubAct b b') (hplaces : Places none b) (h : Tracked b) :
    Tracked b' := by
  cases hact with
  | refused => exact h
  | tracked i a u hfree _ =>
      intro hnone
      apply h
      rcases hnone with ⟨j, q, hq, hu⟩ | hgone
      · rcases seat_cases (b := b.placed u a.tcpPort) hq with ⟨-, hnew⟩ | ⟨-, hold⟩
        · rw [← Option.some.inj hnew] at hu
          exact absurd hu (Option.some_ne_none u)
        · exact .inl ⟨j, q, hold, hu⟩
      · exact .inr hgone
  | untracked i a hfree hfull =>
      intro _
      exact hplaces.leak hfree hfull
  | announced i p f rest hp _ _ _ =>
      exact (h.reads hp rest).relay (some p.sock.handle) (wireBytes f)
  | passed i p f rest ac hp _ _ _ _ =>
      have hrelay := (h.reads hp rest).relay (some p.sock.handle) (wireBytes f)
      rw [pcanBridgeSendIfOpen]
      split
      · exact hrelay
      · split
        · exact hrelay
        · exact hrelay
  | dropped i p rest rows hp _ =>
      have hseat : ((b.seat i (some (p.reads rest))).traced rows).peers i = some (p.reads rest) :=
        Function.update_self i _ b.peers
      have hreads : Tracked ((b.seat i (some (p.reads rest))).traced rows) := h.reads hp rest
      have hvacated := hreads.vacate hseat
      rcases dropPeer_cases hseat with ⟨-, heq⟩ | ⟨u, port, -, -, heq⟩ | ⟨u, port, -, -, heq⟩
      · rw [heq]
        exact hvacated
      · rw [heq]
        exact hvacated
      · rw [heq]
        exact hvacated.relay _ _
  | bridged m f _ _ =>
      refine h.same (fun j q hq => ?_) (fun g hg => .inl hg) fun g hg => hg
      obtain ⟨p, n, sends, torn, hp, rfl, -⟩ := ticked_peer hq
      exact ⟨p, hp, rfl⟩

/-- **The pool**: after any rounds, each peer with a place holds it alone and the place is in use;
    a place in use belongs to a peer of the table or to one that a relay gave up; and unless a
    relay has failed, every connection of the table has a place. -/
theorem hub_places (quiet pcanOpen : Bool) (rounds : List Selected) :
    Places none (busRun quiet pcanOpen rounds) ∧
    ((∀ g ∈ (busRun quiet pcanOpen rounds).gone, g.cut = false) →
      ∀ i p, (busRun quiet pcanOpen rounds).peers i = some p → p.user ≠ none) := by
  have hinv : Places none (busRun quiet pcanOpen rounds) ∧ Tracked (busRun quiet pcanOpen rounds) := by
    refine busRun_invariant (I := fun b => Places none b ∧ Tracked b) (fun b b' hact h => ?_)
      ⟨places_start quiet pcanOpen, ?_⟩ rounds
    · exact ⟨places_act hact h.1, tracked_act hact h.1 h.2⟩
    · rintro (⟨i, p, hp, -⟩ | ⟨g, hg, -⟩)
      · exact absurd hp.symm (Option.some_ne_none p)
      · exact absurd hg List.not_mem_nil
  refine ⟨hinv.1, fun hcut i p hp hu => ?_⟩
  obtain ⟨g, hg, htrue⟩ := hinv.2 (.inl ⟨i, p, hp, hu⟩)
  rw [hcut g hg] at htrue
  exact Bool.noConfusion htrue

end Places

/-! ## Announcements and losses -/

section Membership

variable {b b' : Bus} {i : Fin maxPeers} {p : BusPeer} {rest : Socket} {origin : Option Nat}
  {bytes : List UInt8} {f : RawFrame} {h : Nat} {log : List (Entry Nat (List UInt8))}
  {pool pool' : Fin maxPeers → FdPeer} {user : Option (Fin maxPeers)} {told : List (List UInt8)}

/-- The messages of a peer, or in its name, with an id of the simulator. -/
def control (h : Nat) (log : List (Entry Nat (List UInt8))) : List (List UInt8) :=
  ((said h log).filter fun e => canIdIsSimOnly (wireId e.message)).map Entry.message

theorem control_other (hother : origin ≠ some h) :
    control h (log ++ [⟨origin, bytes⟩]) = control h log := by
  rw [control, said_concat_other hother]
  rfl

theorem control_own (hown : origin = some h) :
    control h (log ++ [⟨origin, bytes⟩])
      = control h log ++ (if canIdIsSimOnly (wireId bytes) then [bytes] else []) := by
  rw [control, said_concat_own hown, List.filter_append, List.filter_singleton, List.map_append]
  cases canIdIsSimOnly (wireId bytes) <;> rfl

/-- What is told of a peer whose connection is there: nothing, or its announcement, which the pool
    holds. -/
inductive Announced (peer : FdPeer) : List (List UInt8) → Prop
  | silent (tcpPort : UInt16) (hnew : peer = freshPeer tcpPort) : Announced peer []
  | told (f : RawFrame) (tcpPort : UInt16) (hvalid : frameValidate f = .ok)
      (hid : frameIdValue f = simPeerAnnounce) (hrec : peer = recordAnnounce (freshPeer tcpPort) f) :
      Announced peer [wireBytes f]

/-- The loss of a peer that had announced itself like this. -/
def lossOf (f : RawFrame) : RawFrame := fillPeerLoss (recordAnnounce (freshPeer 0) f)

/-- What is told of a peer that is gone: nothing, or its announcement, and then its loss unless a
    relay gave it up. -/
inductive Ended (cut : Bool) : List (List UInt8) → Prop
  | silent : Ended cut []
  | told (f : RawFrame) (hvalid : frameValidate f = .ok) (hid : frameIdValue f = simPeerAnnounce)
      (hcut : cut = false) : Ended cut [wireBytes f, wireBytes (lossOf f)]
  | untold (f : RawFrame) (hvalid : frameValidate f = .ok) (hid : frameIdValue f = simPeerAnnounce)
      (hcut : cut = true) : Ended cut [wireBytes f]

/-- Announcements only. -/
def Announcements (told : List (List UInt8)) : Prop := ∀ m ∈ told, wireId m = simPeerAnnounce

/-- What is told of a peer in the table. -/
inductive Standing (pool : Fin maxPeers → FdPeer) :
    Option (Fin maxPeers) → List (List UInt8) → Prop
  | placed (u : Fin maxPeers) (told : List (List UInt8)) (h : Announced (pool u) told) :
      Standing pool (some u) told
  | unplaced (told : List (List UInt8)) (h : Announcements told) : Standing pool none told

/-- What is told of a peer that is gone. -/
inductive Final (cut : Bool) : Option (Fin maxPeers) → List (List UInt8) → Prop
  | placed (u : Fin maxPeers) (told : List (List UInt8)) (h : Ended cut told) :
      Final cut (some u) told
  | unplaced (told : List (List UInt8)) (h : Announcements told) : Final cut none told

/-- A relay gives a peer up. -/
theorem Standing.cut (hs : Standing pool user told) : Final true user told := by
  cases hs with
  | placed u _ ha =>
      refine .placed u _ ?_
      cases ha with
      | silent => exact .silent
      | told f _ hvalid hid _ => exact .untold f hvalid hid rfl
  | unplaced _ ha => exact .unplaced _ ha

/-- A place that keeps what it holds. -/
theorem Standing.same (hs : Standing pool user told)
    (hsame : ∀ u, user = some u → pool' u = pool u) : Standing pool' user told := by
  cases hs with
  | placed u _ ha =>
      refine .placed u _ ?_
      rw [hsame u rfl]
      exact ha
  | unplaced _ ha => exact .unplaced _ ha

/-- **A peer announces itself**, for the first time if it has a place. -/
theorem Standing.announce (hs : Standing b.peerPool p.user told) (hvalid : frameValidate f = .ok)
    (hid : frameIdValue f = simPeerAnnounce)
    (hnew : ∀ u, p.user = some u → (b.peerPool u).announced = false) :
    Standing (recorded b p f) p.user (told ++ [wireBytes f]) := by
  have hpool : ∀ u, p.user = some u →
      recorded b p f u = recordAnnounce (b.peerPool u) f := by
    intro u hu
    rw [recorded, hu]
    exact Function.update_self u _ b.peerPool
  generalize p.user = user at hs hnew hpool
  cases hs with
  | placed u _ ha =>
      refine .placed u _ ?_
      rw [hpool u rfl]
      cases ha with
      | silent tcpPort heq =>
          rw [heq]
          exact .told f tcpPort hvalid hid rfl
      | told g tcpPort _ _ hrec =>
          -- the place says that the peer was announced
          have hno := hnew u rfl
          rw [hrec] at hno
          exact Bool.noConfusion hno
  | unplaced _ ha =>
      refine .unplaced _ fun m hm => ?_
      rcases List.mem_append.mp hm with hold | hlast
      · exact ha m hold
      · rw [List.mem_singleton.mp hlast, wireId_wireBytes]
        exact hid

/-- The port is not told. -/
theorem fillPeerLoss_port (f : RawFrame) (tcpPort : UInt16) :
    fillPeerLoss (recordAnnounce (freshPeer tcpPort) f) = lossOf f := rfl

/-- What is told of the peers. -/
structure Told (b : Bus) : Prop where
  seated : ∀ i p, b.peers i = some p →
    Standing b.peerPool p.user (control p.sock.handle b.log)
  gone : ∀ g ∈ b.gone, Final g.cut g.peer.user (control g.peer.sock.handle b.log)

theorem told_start (quiet pcanOpen : Bool) : Told (busStart quiet pcanOpen) where
  seated := fun _ p h => absurd h.symm (Option.some_ne_none p)
  gone := fun _ h => absurd h List.not_mem_nil

/-- Nothing else of the hub counts. -/
theorem Told.transfer (ht : Told b) (hpeers : b'.peers = b.peers) (hgone : b'.gone = b.gone)
    (hlog : b'.log = b.log) (hpool : b'.peerPool = b.peerPool) : Told b' := by
  obtain ⟨hseated, hfinal⟩ := ht
  simp only [← hpeers, ← hgone, ← hlog, ← hpool] at hseated hfinal
  exact ⟨hseated, hfinal⟩

/-- A relay tells what its message tells. -/
theorem told_relay
    (hseated : ∀ i p, b.peers i = some p →
      Standing b.peerPool p.user (control p.sock.handle (b.log ++ [⟨origin, bytes⟩])))
    (hgone : ∀ g ∈ b.gone,
      Final g.cut g.peer.user (control g.peer.sock.handle (b.log ++ [⟨origin, bytes⟩]))) :
    Told (relayBytes b origin bytes) := by
  constructor
  · intro j q hq
    obtain ⟨p, hp, ⟨-, rfl⟩ | ⟨-, sends, rfl⟩⟩ := relayed_peer hq
    · exact hseated j _ hp
    · have hstanding := hseated j p hp
      exact hstanding
  · intro g hg
    rcases relayed_gone hg with hold | ⟨j, p, n, sends, hp, -, -, rfl⟩
    · exact hgone g hold
    · have hcut := (hseated j p hp).cut
      exact hcut

/-- The announcement of a peer in the table is relayed. -/
theorem Told.announced (ht : Told b) (hh : Handles b) (hpl : Places none b)
    (hp : b.peers i = some p) (hvalid : frameValidate f = .ok)
    (hid : frameIdValue f = simPeerAnnounce)
    (hnew : ∀ u, p.user = some u → (b.peerPool u).announced = false) (rest : Socket) :
    Told (relayBytes ((b.seat i (some (p.reads rest))).pooled (recorded b p f))
      (some p.sock.handle) (wireBytes f)) := by
  have hsim : canIdIsSimOnly (wireId (wireBytes f)) = true := by
    rw [wireId_wireBytes, hid]
    decide
  refine told_relay (fun j q hq => ?_) fun g hg => ?_
  · show Standing (recorded b p f) q.user
      (control q.sock.handle (b.log ++ [⟨some p.sock.handle, wireBytes f⟩]))
    rcases seat_cases hq with ⟨-, hself⟩ | ⟨hji, hold⟩
    · rw [← Option.some.inj hself]
      show Standing (recorded b p f) p.user
        (control p.sock.handle (b.log ++ [⟨some p.sock.handle, wireBytes f⟩]))
      rw [control_own rfl, if_pos hsim]
      exact (ht.seated i p hp).announce hvalid hid hnew
    · have hne : some p.sock.handle ≠ some q.sock.handle := fun heq =>
        hji (hh.apart i j p q hp hold (Option.some.inj heq)).symm
      rw [control_other hne]
      -- another peer has another place
      refine (ht.seated j q hold).same fun u hu => ?_
      rw [recorded]
      cases hpu : p.user with
      | none => rfl
      | some v =>
          have huv : u ≠ v := by
            intro heq
            subst heq
            exact hji (hpl.apart i j p q u hp hold hpu hu).symm
          exact Function.update_of_ne huv _ b.peerPool
  · show Final g.cut g.peer.user
      (control g.peer.sock.handle (b.log ++ [⟨some p.sock.handle, wireBytes f⟩]))
    have hne : some p.sock.handle ≠ some g.peer.sock.handle := fun heq =>
      hh.left g hg i p hp (Option.some.inj heq)
    rw [control_other hne]
    exact ht.gone g hg

/-- A USDO frame of a peer in the table is relayed. -/
theorem Told.passed (ht : Told b) (hsim : canIdIsSimOnly (frameIdValue f) = false)
    (hp : b.peers i = some p) (rest : Socket) :
    Told (relayBytes (b.seat i (some (p.reads rest))) (some p.sock.handle) (wireBytes f)) := by
  have hquiet : ∀ h, control h (b.log ++ [⟨some p.sock.handle, wireBytes f⟩])
      = control h b.log := by
    intro h
    by_cases hown : some p.sock.handle = some h
    · rw [control_own hown, wireId_wireBytes, hsim, if_neg Bool.false_ne_true, List.append_nil]
    · exact control_other hown
  refine told_relay (fun j q hq => ?_) fun g hg => ?_
  · show Standing b.peerPool q.user
      (control q.sock.handle (b.log ++ [⟨some p.sock.handle, wireBytes f⟩]))
    rw [hquiet]
    rcases seat_cases hq with ⟨-, hself⟩ | ⟨-, hold⟩
    · rw [← Option.some.inj hself]
      have hstanding := ht.seated i p hp
      exact hstanding
    · exact ht.seated j q hold
  · show Final g.cut g.peer.user
      (control g.peer.sock.handle (b.log ++ [⟨some p.sock.handle, wireBytes f⟩]))
    rw [hquiet]
    exact ht.gone g hg

/-- **A peer is dropped**, and its loss is told if it had announced itself. -/
theorem Told.drop (ht : Told b) (hh : Handles b) (hp : b.peers i = some p) :
    Told (dropPeer b i) := by
  have hseated : ∀ j q, (b.vacated i p).peers j = some q →
      Standing b.peerPool q.user (control q.sock.handle b.log) :=
    fun j q hq => ht.seated j q (vacated_cases hq).2
  have hstanding := ht.seated i p hp
  rcases dropPeer_cases hp with ⟨hu, heq⟩ | ⟨u, port, hu, hann, heq⟩ | ⟨u, port, hu, hann, heq⟩
  · rw [heq]
    refine ⟨hseated, fun g hg => ?_⟩
    rcases List.mem_append.mp hg with hold | hnew
    · exact ht.gone g hold
    · rw [List.mem_singleton.mp hnew]
      show Final false p.user (control p.sock.handle b.log)
      rw [hu] at hstanding ⊢
      cases hstanding with
      | unplaced _ ha => exact .unplaced _ ha
  · rw [heq]
    refine ⟨hseated, fun g hg => ?_⟩
    rcases List.mem_append.mp hg with hold | hnew
    · exact ht.gone g hold
    · rw [List.mem_singleton.mp hnew]
      show Final false p.user (control p.sock.handle b.log)
      rw [hu] at hstanding ⊢
      cases hstanding with
      | placed _ _ ha =>
          refine .placed u _ ?_
          -- nothing was told of a peer that had not announced itself
          generalize control p.sock.handle b.log = told at ha ⊢
          cases ha with
          | silent => exact .silent
          | told f _ _ _ hrec =>
              rw [hrec] at hann
              exact Bool.noConfusion hann
  · rw [heq]
    have hsim : canIdIsSimOnly (wireId (wireBytes (fillPeerLoss (b.peerPool u)))) = true := by
      rw [wireId_wireBytes, fillPeerLoss_id]
      decide
    have hrelay : Told (relayBytes (b.vacated i p) (some p.sock.handle)
        (wireBytes (fillPeerLoss (b.peerPool u)))) := by
      refine told_relay (fun j q hq => ?_) fun g hg => ?_
      · obtain ⟨hji, hold⟩ := vacated_cases hq
        have hne : some p.sock.handle ≠ some q.sock.handle := fun heq =>
          hji (hh.apart i j p q hp hold (Option.some.inj heq)).symm
        show Standing b.peerPool q.user (control q.sock.handle (b.log ++ [⟨some p.sock.handle, _⟩]))
        rw [control_other hne]
        exact ht.seated j q hold
      · show Final g.cut g.peer.user
          (control g.peer.sock.handle (b.log ++ [⟨some p.sock.handle, _⟩]))
        rcases List.mem_append.mp hg with hold | hnew
        · have hne : some p.sock.handle ≠ some g.peer.sock.handle := fun heq =>
            hh.left g hold i p hp (Option.some.inj heq)
          rw [control_other hne]
          exact ht.gone g hold
        · rw [List.mem_singleton.mp hnew]
          show Final false p.user (control p.sock.handle (b.log ++ [⟨some p.sock.handle, _⟩]))
          rw [control_own rfl, if_pos hsim]
          rw [hu] at hstanding ⊢
          cases hstanding with
          | placed _ _ ha =>
              refine .placed u _ ?_
              generalize control p.sock.handle b.log = told at ha ⊢
              cases ha with
              | silent tcpPort hnew =>
                  rw [hnew] at hann
                  exact Bool.noConfusion hann
              | told f tcpPort hvalid hid hrec =>
                  rw [hrec, fillPeerLoss_port]
                  exact .told f hvalid hid rfl
    exact hrelay.transfer rfl rfl rfl rfl

/-- A connection is accepted: nothing is told of it yet. -/
theorem Told.join (ht : Told b) (hh : Handles b) (a : Arrival)
    (hpool : ∀ j q u, b.peers j = some q → q.user = some u → pool' u = b.peerPool u)
    (hnew : ∀ u, user = some u → pool' u = freshPeer a.tcpPort) :
    Told ((b.pooled pool').seat i (some (newPeer b a user))).counted := by
  have hfresh : control b.accepted b.log = [] := by
    rw [control, said_eq_nil fun e he heq => Nat.lt_irrefl _ (hh.said e he b.accepted heq)]
    rfl
  refine ⟨fun j q hq => ?_, ht.gone⟩
  show Standing pool' q.user (control q.sock.handle b.log)
  rcases seat_cases (b := b.pooled pool') hq with ⟨-, hself⟩ | ⟨-, hold⟩
  · rw [← Option.some.inj hself]
    show Standing pool' user (control b.accepted b.log)
    rw [hfresh]
    cases user with
    | none => exact .unplaced _ fun m hm => absurd hm List.not_mem_nil
    | some u => exact .placed u _ (.silent a.tcpPort (hnew u rfl))
  · exact (ht.seated j q hold).same fun u hu => hpool j q u hold hu

theorem told_act (hact : HubAct b b') (hh : Handles b) (hpl : Places none b) (ht : Told b) :
    Told b' := by
  cases hact with
  | refused => exact ht.transfer rfl rfl rfl rfl
  | tracked i a u _ hplace =>
      have hjoin : Told ((b.pooled (Function.update b.peerPool u (freshPeer a.tcpPort))).seat i
          (some (newPeer b a (some u)))).counted := by
        refine ht.join hh a (fun j q v hq hv => ?_) fun v hv => ?_
        · have hvu : v ≠ u := by
            intro heq
            subst heq
            rw [(hpl.held j q v hq hv).1] at hplace
            exact Bool.noConfusion hplace
          exact Function.update_of_ne hvu _ b.peerPool
        · rw [← Option.some.inj hv]
          exact Function.update_self u _ b.peerPool
      exact hjoin.transfer rfl rfl rfl rfl
  | untracked i a _ _ =>
      have hjoin : Told ((b.pooled b.peerPool).seat i (some (newPeer b a none))).counted :=
        ht.join hh a (fun _ _ _ _ _ => rfl) fun u hu => absurd hu.symm (Option.some_ne_none u)
      exact hjoin.transfer rfl rfl rfl rfl
  | announced i p f rest hp htaken hid hnew =>
      exact (ht.announced hh hpl hp htaken.valid hid hnew rest).transfer rfl rfl rfl rfl
  | passed i p f rest ac hp _ _ hsim _ =>
      have hrelay := ht.passed hsim hp rest
      rw [pcanBridgeSendIfOpen]
      split
      · exact hrelay.transfer rfl rfl rfl rfl
      · split
        · exact hrelay.transfer rfl rfl rfl rfl
        · exact hrelay.transfer rfl rfl rfl rfl
  | dropped i p rest rows hp _ =>
      have hseat : ((b.seat i (some (p.reads rest))).traced rows).peers i = some (p.reads rest) :=
        Function.update_self i _ b.peers
      have hreads : Told ((b.seat i (some (p.reads rest))).traced rows) := by
        refine ⟨fun j q hq => ?_, ht.gone⟩
        rcases seat_cases hq with ⟨-, hself⟩ | ⟨-, hold⟩
        · rw [← Option.some.inj hself]
          have hstanding := ht.seated i p hp
          exact hstanding
        · exact ht.seated j q hold
      exact hreads.drop ((hh.reads hp rest).transfer rfl rfl rfl rfl) hseat
  | bridged m f _ _ =>
      have hnone : ∀ k, (none : Option Nat) ≠ some k := fun k => (Option.some_ne_none k).symm
      refine ⟨fun j q hq => ?_, fun g hg => ?_⟩
      · obtain ⟨p, n, sends, torn, hp, rfl, -⟩ := ticked_peer hq
        show Standing b.peerPool p.user (control p.sock.handle (b.log ++ [⟨none, wireBytes f⟩]))
        rw [control_other (hnone _)]
        exact ht.seated j p hp
      · show Final g.cut g.peer.user
          (control g.peer.sock.handle (b.log ++ [⟨none, wireBytes f⟩]))
        rw [control_other (hnone _)]
        exact ht.gone g hg

/-- The name that a place holds after an announcement. -/
theorem name_recorded (hlen : f.len.toNat ≤ 64) :
    load (recordAnnounce (freshPeer 0) f).name 0 (recordAnnounce (freshPeer 0) f).nameLen.toNat
      = (f.data.drop 2).take simNameMax := by
  have hn : nameBytes f ≤ 30 := nameBytes_le f
  have hfit : 2 + nameBytes f ≤ f.len.toNat ∨ nameBytes f = 0 := by
    rw [nameBytes]
    split
    · left
      have := Nat.min_le_left (f.len.toNat - 2) simNameMax
      omega
    · exact .inr rfl
  have hcopied : (load f.payload 2 (nameBytes f)).length = nameBytes f :=
    length_load f.payload (by omega)
  have hstored : load (store (zero simNameMax) 0 (load f.payload 2 (nameBytes f))) 0 (nameBytes f)
      = load f.payload 2 (nameBytes f) := by
    have hback := load_store_zero (zero simNameMax)
      (show (load f.payload 2 (nameBytes f)).length ≤ simNameMax by rw [hcopied]; exact hn)
    rwa [hcopied] at hback
  show load (store (zero simNameMax) 0 (load f.payload 2 (nameBytes f))) 0
    (UInt8.ofNat (nameBytes f)).toNat = _
  rw [nameLen_toNat, hstored]
  have hdata : f.data.length = f.len.toNat := length_load f.payload (by omega)
  -- the bytes behind the first two, up to thirty of them
  rcases hfit with hfit | hnone
  · have hwindow : load f.payload 2 (nameBytes f) = (f.data.drop 2).take (nameBytes f) :=
      load_of_front f.payload rfl hlen hfit
    rw [hwindow]
    refine List.take_eq_take_iff.mpr ?_
    have hlong : (f.data.drop 2).length = f.len.toNat - 2 := by rw [List.length_drop, hdata]
    rw [hlong]
    show min (nameBytes f) (f.len.toNat - 2) = min 30 (f.len.toNat - 2)
    by_cases hmore : f.len.toNat > 2
    · have hdef : nameBytes f = min (f.len.toNat - 2) 30 := if_pos hmore
      omega
    · omega
  · rw [hnone, load_zero]
    by_cases hmore : f.len.toNat > 2
    · have hdef : nameBytes f = min (f.len.toNat - 2) 30 := if_pos hmore
      omega
    · rw [List.drop_of_length_le (by omega), List.take_nil]

/-- **What a loss says** is what the announcement said: its first two bytes, zero if they are not
    there, and up to thirty bytes of a name. -/
theorem lossOf_data (hvalid : frameValidate f = .ok) :
    (lossOf f).data
      = [f.data.getD 0 0, f.data.getD 1 0] ++ (f.data.drop 2).take simNameMax := by
  have hlen : f.len.toNat ≤ 64 := len_le_of_valid hvalid
  have hdata : f.data.length = f.len.toNat := length_load f.payload (by omega)
  have hbyte : ∀ k, (if f.len.toNat ≥ k + 1 then byteAt f k else 0) = f.data.getD k 0 := by
    intro k
    by_cases hk : f.len.toNat ≥ k + 1
    · rw [if_pos hk]
      exact (byte_toFrame hlen hk).symm
    · rw [if_neg hk, List.getD_eq_getElem?_getD, List.getElem?_eq_none (by omega)]
      rfl
  have hname := name_recorded (f := f) hlen
  have hcount : (recordAnnounce (freshPeer 0) f).nameLen.toNat = nameBytes f := nameLen_toNat f
  have hn : nameBytes f ≤ 30 := nameBytes_le f
  have hnameLen : (load (recordAnnounce (freshPeer 0) f).name 0 (nameBytes f)).length = nameBytes f :=
    length_load _ (by show 0 + nameBytes f ≤ 30; omega)
  rw [hcount] at hname
  rw [lossOf, RawFrame.data, fillPeerLoss]
  dsimp only
  rw [hcount, UInt8.toNat_ofNat', Nat.mod_eq_of_lt (show 2 + nameBytes f < 2 ^ 8 by omega)]
  have hroom : ([(recordAnnounce (freshPeer 0) f).role, (recordAnnounce (freshPeer 0) f).nodeId]
      ++ load (recordAnnounce (freshPeer 0) f).name 0 (nameBytes f)).length ≤ 64 := by
    rw [List.length_append, hnameLen]
    show 2 + nameBytes f ≤ 64
    omega
  have hback := load_store_zero (zero 64) hroom
  rw [List.length_append, hnameLen] at hback
  refine hback.trans ?_
  rw [hname]
  exact congrArg (· ++ (f.data.drop 2).take simNameMax)
    (congrArg₂ (fun a b => [a, b]) (hbyte 0) (hbyte 1))

/-- `send_announce` of the client and of the server. -/
def sendAnnounce (role nodeId : UInt8) (name : List UInt8) : RawFrame :=
  { frameInit simPeerAnnounce true with
    payload := store (zero 64) 0 ([role, nodeId] ++ name.take simNameMax)
    len := UInt8.ofNat (2 + (name.take simNameMax).length) }

theorem sendAnnounce_data (role nodeId : UInt8) (name : List UInt8) :
    frameValidate (sendAnnounce role nodeId name) = .ok ∧
      (sendAnnounce role nodeId name).data = [role, nodeId] ++ name.take simNameMax := by
  have hname : (name.take simNameMax).length ≤ 30 := List.length_take_le _ _
  have hlen : (sendAnnounce role nodeId name).len.toNat = 2 + (name.take simNameMax).length := by
    show (UInt8.ofNat (2 + (name.take simNameMax).length)).toNat = _
    rw [UInt8.toNat_ofNat']
    exact Nat.mod_eq_of_lt (by omega)
  constructor
  · have hid : (sendAnnounce role nodeId name).canId = 0x9FFFFFE0 := by
      show (frameInit simPeerAnnounce true).canId = 0x9FFFFFE0
      decide
    have hflags : (sendAnnounce role nodeId name).flags = 0 := rfl
    rw [frameValidate, validateFields_iff, hid, hflags, hlen]
    refine ⟨by decide, by decide, by decide, by decide, ?_⟩
    show 2 + (name.take simNameMax).length ≤ 64
    omega
  · rw [RawFrame.data, hlen]
    have hroom : ([role, nodeId] ++ name.take simNameMax).length ≤ 64 := by
      rw [List.length_append]
      show 2 + (name.take simNameMax).length ≤ 64
      omega
    have hback := load_store_zero (zero 64) hroom
    rwa [List.length_append] at hback

/-- **The loss repeats the announcement** that a client or a server sends. -/
theorem loss_repeats (role nodeId : UInt8) (name : List UInt8) :
    (lossOf (sendAnnounce role nodeId name)).data = (sendAnnounce role nodeId name).data := by
  obtain ⟨hvalid, hdata⟩ := sendAnnounce_data role nodeId name
  have hname : (name.take simNameMax).length ≤ simNameMax := List.length_take_le _ _
  rw [lossOf_data hvalid, hdata]
  show [role, nodeId] ++ (name.take simNameMax).take simNameMax = _
  rw [List.take_of_length_le hname]

/-- **Who is on the bus**: after any rounds, of a peer of the table that has a place the bus has
    carried nothing but USDO frames, or these and one announcement, which its place holds; of a
    peer with a place that was dropped, either no announcement and no loss, or one announcement
    and then one loss, that of what was announced; and of one that a relay gave up, no loss.  A
    peer without a place is never told to be lost.  A loss says what the announcement said. -/
theorem hub_membership (quiet pcanOpen : Bool) (rounds : List Selected) :
    Told (busRun quiet pcanOpen rounds) ∧
    (∀ f, frameValidate f = .ok → (lossOf f).data
      = [f.data.getD 0 0, f.data.getD 1 0] ++ (f.data.drop 2).take simNameMax) ∧
    ∀ role nodeId name,
      (lossOf (sendAnnounce role nodeId name)).data = (sendAnnounce role nodeId name).data := by
  have hinv : Handles (busRun quiet pcanOpen rounds) ∧ Places none (busRun quiet pcanOpen rounds) ∧
      Told (busRun quiet pcanOpen rounds) := by
    refine busRun_invariant (I := fun b => Handles b ∧ Places none b ∧ Told b)
      (fun b b' hact h => ?_)
      ⟨handles_start quiet pcanOpen, places_start quiet pcanOpen, told_start quiet pcanOpen⟩ rounds
    exact ⟨handles_act hact h.1, places_act hact h.2.1, told_act hact h.1 h.2.1 h.2.2⟩
  exact ⟨hinv.2.2, fun f hvalid => lossOf_data hvalid, loss_repeats⟩

/-! ### A worked run -/

/-- Two peers connect; the first one announces itself, sends a request, and leaves. -/
def sampleRounds : List Selected :=
  let stale : Fin maxPeers → RawFrame := fun _ => ⟨0, 0, 0, zero 64⟩
  let wires := [wireBytes (sendAnnounce 1 5 [0x41]), wireBytes (sampleRequest 0)]
  let first := Selected.ready none (fun h => h == 0) stale
  [.ready (some ⟨7, wires, []⟩) (fun _ => false) stale,
    .ready (some ⟨8, [], []⟩) (fun _ => false) stale, first, first, first]

/-- The second one is sent the announcement, the request and the loss. -/
example : ((busRun false false sampleRounds).peers ⟨1, by decide⟩).map (fun p => p.sock.outbox)
    = some (wireBytes (sendAnnounce 1 5 [0x41]) ++ wireBytes (sampleRequest 0)
      ++ wireBytes (lossOf (sendAnnounce 1 5 [0x41]))) := by decide +kernel

end Membership

end SofaHub
