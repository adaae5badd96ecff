import Sofa.HubDelivery

/-! # The adapter and the trace

    With an adapter open, the hub writes what its peers say to a real bus and tells its peers what
    comes from there.  A CAN FD frame has one of sixteen lengths, so a message for the adapter is
    padded, and nothing says where the padding begins.

    * **`bridge_transparent`**: what another adapter makes of the message decodes to the same PDU;
    * **`hub_bridge`**: the adapter is given the USDO frames of the peers, all of them, once and in
      the order of the bus, and nothing else;
    * **`hub_trace`**: the rows of the trace are the messages of the bus, in its order, unless the
      hub is quiet. -/

namespace SofaHub

open ByteBlock FixedBuffer Machine Broadcast SofaDevice SofaUsdo SofaUsdoRaw SofaFraming
open SofaUsdoFormat (lenToDlc padded append decode_append padded_short)

/-! ## One message -/

section Message

variable {f : RawFrame}

/-- The message of a frame. -/
def pcanMessage (f : RawFrame) : Option PcanMsg :=
  pcanWriteFd (frameIdValue f) (f.canId &&& canIdFlagIde != 0) (f.flags &&& flagBrs != 0) f.data
    f.len

/-- The length that a code stands for is the length that the code was chosen for. -/
theorem dlcToLen_lenToDlc {n : Nat} (h : n ≤ 64) :
    (dlcToLen (lenToDlc n).2).toNat = (lenToDlc n).1 ∧ n ≤ (lenToDlc n).1 ∧
      (lenToDlc n).1 ≤ 64 := by
  have hall : ∀ k : Fin 65, (dlcToLen (lenToDlc k).2).toNat = (lenToDlc k).1 ∧
      k.val ≤ (lenToDlc k).1 ∧ (lenToDlc k).1 ≤ 64 := by decide
  exact hall ⟨n, by omega⟩

/-- What is stored at the front of an empty buffer is read back with zeros behind it. -/
theorem load_store_padded {data : List UInt8} {n : Nat} (h : data.length ≤ n) (hn : n ≤ 64) :
    load (store (zero 64) 0 data) 0 n = data ++ List.replicate (n - data.length) 0 := by
  apply List.ext_getElem?
  intro i
  rw [getElem?_load _ (by omega), List.getElem?_append]
  by_cases hi : i < n
  · rw [dif_pos hi]
    by_cases hd : i < data.length
    · rw [if_pos hd]
      simp [store, List.getElem?_eq_getElem hd]
    · rw [if_neg hd, List.getElem?_replicate, if_pos (by omega)]
      simp [store, List.getElem?_eq_none (Nat.le_of_not_lt hd), zero]
  · rw [dif_neg hi, if_neg (by omega), List.getElem?_replicate, if_neg (by omega)]

/-- An id without the two reserved bits is its value and its flag. -/
theorem canId_parts {x : UInt32} (hrtr : x &&& canIdFlagRtr = 0) (herr : x &&& canIdFlagErr = 0) :
    ((x &&& canIdValue) &&& canIdValue) |||
      (if x &&& canIdFlagIde != 0 then canIdFlagIde else 0) = x := by
  have hbit : ∀ (k : Nat) (flag : UInt32), flag.toBitVec = BitVec.twoPow 32 k → k < 32 →
      (x &&& flag = 0 ↔ x.toBitVec.getLsbD k = false) := by
    intro k flag hflag hk
    rw [← UInt32.toBitVec_inj, UInt32.toBitVec_and, hflag, BitVec.and_twoPow]
    by_cases hx : x.toBitVec.getLsbD k = true
    · rw [if_pos hx, hx]
      refine iff_of_false (fun hzero => ?_) Bool.noConfusion
      have hset : (BitVec.twoPow 32 k).getLsbD k = true := by
        rw [BitVec.getLsbD_twoPow]
        simp [hk]
      rw [hzero] at hset
      simp at hset
    · rw [if_neg hx, Bool.eq_false_of_not_eq_true hx]
      exact iff_of_true rfl rfl
  have hrtr' := (hbit 30 canIdFlagRtr (by decide) (by decide)).mp hrtr
  have herr' := (hbit 29 canIdFlagErr (by decide) (by decide)).mp herr
  have hide := hbit 31 canIdFlagIde (by decide) (by decide)
  have hmask : ∀ i, canIdValue.toBitVec.getLsbD i = decide (i < 29) := by
    intro i
    by_cases hi : i < 32
    · have hall : ∀ k : Fin 32, canIdValue.toBitVec.getLsbD k = decide (k.val < 29) := by decide
      exact hall ⟨i, hi⟩
    · rw [BitVec.getLsbD_of_ge _ _ (Nat.le_of_not_lt hi)]
      exact (decide_eq_false (by omega)).symm
  have hflag : ∀ i, (if x &&& canIdFlagIde != 0 then canIdFlagIde else 0).toBitVec.getLsbD i
      = (decide (i = 31) && x.toBitVec.getLsbD 31) := by
    intro i
    by_cases hset : x &&& canIdFlagIde = 0
    · rw [hide.mp hset, if_neg (by rw [hset]; decide), Bool.and_false]
      simp
    · have hone : x.toBitVec.getLsbD 31 = true :=
        Bool.eq_true_of_not_eq_false fun hno => hset (hide.mpr hno)
      rw [hone, if_pos (by simpa using hset), Bool.and_true]
      have hpow : canIdFlagIde.toBitVec = BitVec.twoPow 32 31 := by decide
      rw [hpow, BitVec.getLsbD_twoPow]
      by_cases hi : i = 31
      · simp [hi]
      · simp [hi, Ne.symm hi]
  apply UInt32.eq_of_toBitVec_eq
  apply BitVec.eq_of_getLsbD_eq
  intro i hi
  rw [UInt32.toBitVec_or, UInt32.toBitVec_and, UInt32.toBitVec_and, BitVec.getLsbD_or,
    BitVec.getLsbD_and, BitVec.getLsbD_and, hmask, hflag]
  -- the low bits, then the three of the flags
  by_cases hlow : i < 29
  · rw [decide_eq_true hlow, decide_eq_false (show i ≠ 31 by omega)]
    simp
  · rw [decide_eq_false hlow]
    have hthree : i = 29 ∨ i = 30 ∨ i = 31 := by omega
    rcases hthree with rfl | rfl | rfl
    · simpa using herr'
    · simpa using hrtr'
    · simp

/-- What a valid frame has no bits of. -/
theorem reserved_of_valid (h : frameValidate f = .ok) :
    f.canId &&& canIdFlagRtr = 0 ∧ f.canId &&& canIdFlagErr = 0 := by
  obtain ⟨hrtr, herr, -⟩ := validateFields_iff.mp h
  exact ⟨hrtr, herr⟩

/-- The check looks at the id, at the flags and at the length. -/
theorem frameValidate_of {g : RawFrame} (hid : g.canId = f.canId)
    (hflags : g.flags = 0 ∨ g.flags = flagBrs) (hlen : g.len.toNat ≤ payloadMax)
    (h : frameValidate f = .ok) : frameValidate g = .ok := by
  have hclean : g.flags &&& ~~~flagAll = 0 := by
    rcases hflags with heq | heq
    · rw [heq]
      decide
    · rw [heq]
      decide
  obtain ⟨hrtr, herr, hstd, -, -⟩ := validateFields_iff.mp h
  rw [← hid] at hrtr herr hstd
  exact validateFields_iff.mpr ⟨hrtr, herr, hstd, hclean, hlen⟩

/-- The decoder does not look at the flags. -/
theorem decode_flags (f : Frame) (flags : UInt8) : decode { f with flags := flags } = decode f :=
  rfl

/-- A frame in which the decoder finds a PDU. -/
theorem usdo_decodes (hvalid : frameValidate f = .ok) :
    UsdoFrame f ↔ ∃ pdu, decode (toFrame f) = .ok pdu := by
  rw [decode_toFrame (len_le_of_valid hvalid) ⟨0, 0, 0, 0, 0, 0, false, 0, 0, 0, 0, 0, none⟩,
    toResult, UsdoFrame]
  cases (decodeRaw f ⟨0, 0, 0, 0, 0, 0, false, 0, 0, 0, 0, 0, none⟩).1 with
  | none => exact iff_of_true rfl ⟨_, rfl⟩
  | some e =>
      refine iff_of_false (Option.some_ne_none e) ?_
      rintro ⟨pdu, hpdu⟩
      cases hpdu

/-- **The real bus is transparent**: a USDO frame of the simulated bus is given to the adapter with
    its id and its format, in one of the lengths of CAN FD; what another hub or node makes of the
    message is a valid frame with the same id, and decodes to the same PDU, although the length
    that it sees may be longer. -/
theorem bridge_transparent (f : RawFrame) (hvalid : frameValidate f = .ok)
    (hsim : canIdIsSimOnly (frameIdValue f) = false) (husdo : UsdoFrame f) :
    ∃ m g pdu, pcanMessage f = some m ∧ pcanReadFrame m = some g ∧ g.canId = f.canId ∧
      g.data = f.data ++ List.replicate (g.len.toNat - f.len.toNat) 0 ∧
      g.len.toNat = (lenToDlc f.len.toNat).1 ∧ frameValidate g = .ok ∧ UsdoFrame g ∧
      decode (toFrame f) = .ok pdu ∧ decode (toFrame g) = .ok pdu := by
  have hlen : f.len.toNat ≤ 64 := len_le_of_valid hvalid
  have hdata : f.data.length = f.len.toNat := length_load f.payload (by omega)
  obtain ⟨hcode, hle, hmax⟩ := dlcToLen_lenToDlc hlen
  obtain ⟨hrtr, herr⟩ := reserved_of_valid hvalid
  have hfits : ¬ f.len > 64 := by
    rw [gt_iff_lt, UInt8.lt_iff_toNat_lt]
    exact Nat.not_lt.mpr hlen
  obtain ⟨m, hm⟩ : ∃ m, pcanMessage f = some m := ⟨_, by rw [pcanMessage, pcanWriteFd, if_neg hfits]⟩
  have hfields : m.id = frameIdValue f ∧ m.dlc = (lenToDlc f.len.toNat).2 ∧
      m.data = store (zero 64) 0 f.data ∧
      (m.msgtype &&& pcanMessageExtended != 0) = (f.canId &&& canIdFlagIde != 0) := by
    rw [pcanMessage, pcanWriteFd, if_neg hfits] at hm
    rw [← Option.some.inj hm]
    refine ⟨rfl, rfl, rfl, ?_⟩
    dsimp only
    cases f.canId &&& canIdFlagIde != 0 <;> cases f.flags &&& flagBrs != 0 <;> decide
  obtain ⟨hmid, hmdlc, hmdata, hmext⟩ := hfields
  -- the frame that comes out
  have hgid : (pcanFrame m).canId = f.canId := by
    rw [pcanFrame, frameInit, hmid, hmext]
    exact canId_parts hrtr herr
  have hglen : (pcanFrame m).len.toNat = (lenToDlc f.len.toNat).1 := by
    show (dlcToLen m.dlc).toNat = _
    rw [hmdlc, hcode]
  have hgdata : (pcanFrame m).data
      = f.data ++ List.replicate ((pcanFrame m).len.toNat - f.len.toNat) 0 := by
    have hinner : load m.data 0 (lenToDlc f.len.toNat).1
        = f.data ++ List.replicate ((lenToDlc f.len.toNat).1 - f.data.length) 0 := by
      rw [hmdata]
      exact load_store_padded (by rw [hdata]; exact hle) hmax
    have hlong : (load m.data 0 (lenToDlc f.len.toNat).1).length = (lenToDlc f.len.toNat).1 :=
      length_load m.data (by omega)
    rw [RawFrame.data, hglen]
    show load (store (zero 64) 0 (load m.data 0 (dlcToLen m.dlc).toNat)) 0 _ = _
    rw [hmdlc, hcode, load_store_padded (by rw [hlong]) hmax, hlong, Nat.sub_self,
      List.replicate_zero, List.append_nil, hinner, hdata]
  have hgvalid : frameValidate (pcanFrame m) = .ok := by
    refine frameValidate_of hgid ?_ (by rw [hglen]; exact hmax) hvalid
    rw [pcanFrame]
    dsimp only
    split
    · exact .inr rfl
    · exact .inl rfl
  have hread : pcanReadFrame m = some (pcanFrame m) := by
    rw [pcanReadFrame, hmid, hsim, if_neg Bool.false_ne_true, if_neg, if_neg (not_not.mpr hgvalid)]
    show ¬ (pcanFrame m).len.toNat > payloadMax
    rw [hglen]
    exact Nat.not_lt.mpr hmax
  -- the frame is the padded one, up to a flag
  have hpad : toFrame (pcanFrame m)
      = { padded (toFrame f) with flags := (pcanFrame m).flags } := by
    rw [padded, length_toFrame hlen, append, toFrame, toFrame]
    dsimp only
    rw [hgid, hgdata, hglen]
  obtain ⟨pdu, hpdu⟩ := (usdo_decodes hvalid).mp husdo
  have hdecode : decode (toFrame (pcanFrame m)) = .ok pdu := by
    rw [hpad, decode_flags]
    by_cases hshort : (toFrame f).payload.length ≤ 8
    · rw [padded_short hshort]
      exact hpdu
    · refine decode_append _ hpdu fun _ => ?_
      show 6 < (toFrame f).payload.length
      omega
  exact ⟨m, pcanFrame m, pdu, hm, hread, hgid, hgdata, hglen, hgvalid,
    (usdo_decodes hgvalid).mpr ⟨pdu, hdecode⟩, hpdu, hdecode⟩

/-- `bridge_transparent` for a download request of ten bytes, which goes out with twelve. -/
theorem sampleRequest_bridged : ∃ m g pdu, pcanMessage (sampleRequest 0xFF) = some m ∧
    pcanReadFrame m = some g ∧ g.len.toNat = 12 ∧
    decode (toFrame (sampleRequest 0xFF)) = .ok pdu ∧ decode (toFrame g) = .ok pdu := by
  obtain ⟨m, g, pdu, hm, hg, -, -, hlen, -, -, hf, hdecoded⟩ :=
    bridge_transparent (sampleRequest 0xFF) (by decide +kernel) (by decide +kernel)
      (by unfold UsdoFrame; decide +kernel)
  exact ⟨m, g, pdu, hm, hg, hlen, hf, hdecoded⟩

end Message

/-! ## The adapter over a run -/

section Mirror

variable {b b' : Bus} {i : Fin maxPeers} {p : BusPeer} {f : RawFrame}

/-- A message of a peer that is not one of the simulator's own. -/
def forBus (e : Entry Nat (List UInt8)) : Bool :=
  e.origin.isSome && !canIdIsSimOnly (wireId e.message)

/-- The adapter was given this message for that one. -/
def GivenFor (m : PcanMsg) (e : Entry Nat (List UInt8)) : Prop :=
  ∃ f, e.message = wireBytes f ∧ frameValidate f = .ok ∧ UsdoFrame f ∧ pcanMessage f = some m

/-- What the adapter was given. -/
structure Mirrored (b : Bus) : Prop where
  shut : b.pcanOpen = false → b.pcanTx = []
  given : b.pcanOpen = true → List.Forall₂ GivenFor b.pcanTx (b.log.filter forBus)

/-- Nothing for the adapter. -/
theorem Mirrored.still (h : Mirrored b) (hopen : b'.pcanOpen = b.pcanOpen)
    (htx : b'.pcanTx = b.pcanTx) (hlog : b'.log.filter forBus = b.log.filter forBus) :
    Mirrored b' := by
  constructor
  · rw [hopen, htx]
    exact h.shut
  · rw [hopen, htx, hlog]
    exact h.given

/-- A message that is not for the adapter. -/
theorem filter_forBus {e : Entry Nat (List UInt8)} (h : forBus e = false)
    (log : List (Entry Nat (List UInt8))) :
    (log ++ [e]).filter forBus = log.filter forBus := by
  rw [List.filter_append, List.filter_singleton, h]
  exact List.append_nil _

theorem mirrored_act (hact : HubAct b b') (h : Mirrored b) : Mirrored b' := by
  cases hact with
  | refused => exact h.still rfl rfl rfl
  | tracked i a u _ _ => exact h.still rfl rfl rfl
  | untracked i a _ _ => exact h.still rfl rfl rfl
  | announced i p f rest _ _ hid _ =>
      refine h.still rfl rfl (filter_forBus ?_ b.log)
      rw [forBus, wireId_wireBytes, hid]
      exact Bool.and_false _
  | passed i p f rest ac _ htaken _ hsim husdo =>
      have hfor : forBus ⟨some p.sock.handle, wireBytes f⟩ = true := by
        rw [forBus, wireId_wireBytes, hsim]
        rfl
      rw [pcanBridgeSendIfOpen]
      by_cases hopen : b.pcanOpen = true
      · have hlen : ¬ f.len > 64 := by
          rw [gt_iff_lt, UInt8.lt_iff_toNat_lt]
          exact Nat.not_lt.mpr (len_le_of_valid htaken.valid)
        obtain ⟨m, hm⟩ : ∃ m, pcanMessage f = some m :=
          ⟨_, by rw [pcanMessage, pcanWriteFd, if_neg hlen]⟩
        have hgiven : GivenFor m ⟨some p.sock.handle, wireBytes f⟩ :=
          ⟨f, rfl, htaken.valid, husdo, hm⟩
        rw [if_neg (by
          show ¬ (!b.pcanOpen) = true
          rw [hopen]
          exact Bool.false_ne_true), if_neg (by rw [hsim]; exact Bool.false_ne_true)]
        refine Mirrored.mk (fun hshut => absurd (hopen.symm.trans hshut) Bool.noConfusion)
          fun _ => ?_
        show List.Forall₂ GivenFor (b.pcanTx ++ (pcanMessage f).toList)
          (List.filter forBus (b.log ++ [⟨some p.sock.handle, wireBytes f⟩]))
        rw [hm, List.filter_append, List.filter_singleton, hfor]
        exact List.rel_append (h.given hopen) (.cons hgiven .nil)
      · have hshut := Bool.eq_false_of_not_eq_true hopen
        rw [if_pos (by
          show (!b.pcanOpen) = true
          rw [hshut]
          rfl)]
        exact Mirrored.mk (fun _ => h.shut hshut) fun hyes => absurd hyes hopen
  | dropped i p rest rows _ _ =>
      have hseat : ((b.seat i (some (p.reads rest))).traced rows).peers i = some (p.reads rest) :=
        Function.update_self i _ b.peers
      rcases dropPeer_cases hseat with ⟨-, heq⟩ | ⟨u, port, -, -, heq⟩ | ⟨u, port, -, -, heq⟩
      · rw [heq]
        exact h.still rfl rfl rfl
      · rw [heq]
        exact h.still rfl rfl rfl
      · rw [heq]
        refine h.still rfl rfl (filter_forBus ?_ b.log)
        rw [forBus, wireId_wireBytes, fillPeerLoss_id]
        exact Bool.and_false _
  | bridged m f _ _ => exact h.still rfl rfl (filter_forBus rfl b.log)

/-- The adapter stays open, or shut. -/
theorem hubAct_open (hact : HubAct b b') : b'.pcanOpen = b.pcanOpen := by
  cases hact with
  | refused => rfl
  | tracked => rfl
  | untracked => rfl
  | announced => rfl
  | passed i p f rest ac =>
      rw [pcanBridgeSendIfOpen]
      split
      · rfl
      · split <;> rfl
  | dropped i p rest rows =>
      have hseat : ((b.seat i (some (p.reads rest))).traced rows).peers i = some (p.reads rest) :=
        Function.update_self i _ b.peers
      rcases dropPeer_cases hseat with ⟨-, heq⟩ | ⟨u, port, -, -, heq⟩ | ⟨u, port, -, -, heq⟩ <;>
        rw [heq] <;> rfl
  | bridged => rfl

/-- The option does not change. -/
theorem hubAct_quiet (hact : HubAct b b') : b'.quiet = b.quiet := by
  cases hact with
  | refused => rfl
  | tracked => rfl
  | untracked => rfl
  | announced => rfl
  | passed i p f rest ac =>
      rw [pcanBridgeSendIfOpen]
      split
      · rfl
      · split <;> rfl
  | dropped i p rest rows =>
      have hseat : ((b.seat i (some (p.reads rest))).traced rows).peers i = some (p.reads rest) :=
        Function.update_self i _ b.peers
      rcases dropPeer_cases hseat with ⟨-, heq⟩ | ⟨u, port, -, -, heq⟩ | ⟨u, port, -, -, heq⟩ <;>
        rw [heq] <;> rfl
  | bridged => rfl

/-- **What leaves the simulation**: without an adapter nothing, and with one exactly the USDO
    frames of the peers, each one once and in the order of the bus.  What comes from the adapter
    does not go back to it, and neither announcements nor losses do. -/
theorem hub_bridge (quiet : Bool) (rounds : List Selected) :
    (busRun quiet false rounds).pcanTx = [] ∧
    List.Forall₂ GivenFor (busRun quiet true rounds).pcanTx
      ((busRun quiet true rounds).log.filter forBus) := by
  have hrun : ∀ pcanOpen, (busRun quiet pcanOpen rounds).pcanOpen = pcanOpen ∧
      Mirrored (busRun quiet pcanOpen rounds) := by
    intro pcanOpen
    refine busRun_invariant (I := fun b => b.pcanOpen = pcanOpen ∧ Mirrored b)
      (fun b b' hact h => ⟨?_, mirrored_act hact h.2⟩)
      ⟨rfl, fun _ => rfl, fun _ => .nil⟩ rounds
    rw [← h.1]
    exact hubAct_open hact
  exact ⟨(hrun false).2.shut (hrun false).1, (hrun true).2.given (hrun true).1⟩

end Mirror

/-! ## The trace -/

section Trace

variable {b b' : Bus} {f : RawFrame}

/-- The frame of a row that is about a frame on the bus. -/
def carriedFrame : Row → Option Frame
  | .frame ac f => if ac = .error then none else some f
  | _ => none

/-- The bytes of a frame. -/
def frameBytes (f : Frame) : List UInt8 :=
  putU32le f.canId ++ [f.flags, UInt8.ofNat f.payload.length] ++ f.payload

theorem frameBytes_toFrame (h : frameValidate f = .ok) : frameBytes (toFrame f) = wireBytes f := by
  have hdata : f.data.length = f.len.toNat := (length_data h).1
  rw [frameBytes, toFrame, wireBytes]
  dsimp only
  rw [hdata, UInt8.ofNat_toNat]

/-- The messages that a trace tells. -/
def tracedBytes (rows : List Row) : List (List UInt8) :=
  (rows.filterMap carriedFrame).map frameBytes

/-- The rows are the messages, or there are no rows. -/
structure TraceExact (b : Bus) : Prop where
  silent : b.quiet = true → b.trace = []
  rows : b.quiet = false → tracedBytes b.trace = b.log.map Entry.message

theorem tracedBytes_append (rows more : List Row) :
    tracedBytes (rows ++ more) = tracedBytes rows ++ tracedBytes more := by
  rw [tracedBytes, List.filterMap_append, List.map_append]
  rfl

theorem tracedBytes_frame {ac : Action} (hac : ac ≠ .error) (h : frameValidate f = .ok) :
    tracedBytes [.frame ac (toFrame f)] = [wireBytes f] := by
  rw [← frameBytes_toFrame h, tracedBytes, List.filterMap_cons, carriedFrame, if_neg hac]
  rfl

theorem tracedBytes_errors {rows : List Row} (h : ErrorRows rows) : tracedBytes rows = [] := by
  rw [tracedBytes, List.map_eq_nil_iff, List.filterMap_eq_nil_iff]
  intro r hr
  obtain ⟨f, rfl⟩ := h r hr
  rw [carriedFrame, if_pos rfl]

/-- A row and its message. -/
theorem TraceExact.grow (h : TraceExact b) {rows : List Row} {origin : Option Nat}
    (hquiet : b'.quiet = b.quiet) (htrace : b'.trace = if b.quiet then b.trace else b.trace ++ rows)
    (hlog : b'.log = b.log ++ [⟨origin, wireBytes f⟩]) (hrows : tracedBytes rows = [wireBytes f]) :
    TraceExact b' := by
  refine ⟨fun hyes => ?_, fun hno => ?_⟩
  · rw [hquiet] at hyes
    rw [htrace, hyes, if_pos rfl, h.silent hyes]
  · rw [hquiet] at hno
    rw [htrace, hno, if_neg Bool.false_ne_true, hlog, tracedBytes_append, hrows, List.map_append,
      h.rows hno]
    rfl

/-- Rows without a message. -/
theorem TraceExact.still (h : TraceExact b) {rows : List Row} (hquiet : b'.quiet = b.quiet)
    (htrace : b'.trace = if b.quiet then b.trace else b.trace ++ rows) (hlog : b'.log = b.log)
    (hrows : tracedBytes rows = []) : TraceExact b' := by
  refine ⟨fun hyes => ?_, fun hno => ?_⟩
  · rw [hquiet] at hyes
    rw [htrace, hyes, if_pos rfl, h.silent hyes]
  · rw [hquiet] at hno
    rw [htrace, hno, if_neg Bool.false_ne_true, hlog, tracedBytes_append, hrows, List.append_nil,
      h.rows hno]

theorem pcanAction_ne (f : RawFrame) (canId : UInt32) : pcanAction f canId ≠ .error := by
  rw [pcanAction]
  cases (canIdSplit canId).2 with
  | none => exact Action.noConfusion
  | request => exact Action.noConfusion
  | response =>
      dsimp only
      split
      · exact Action.noConfusion
      · exact Action.noConfusion

theorem traceExact_act (hact : HubAct b b') (h : TraceExact b) : TraceExact b' := by
  cases hact with
  | refused => exact ⟨h.silent, h.rows⟩
  | tracked i a u _ _ =>
      have hrows : tracedBytes [.connected a.tcpPort] = [] := rfl
      exact h.still rfl rfl rfl hrows
  | untracked i a _ _ => exact ⟨h.silent, h.rows⟩
  | announced i p f rest _ htaken _ _ =>
      have hrows : tracedBytes [.frame .announce (toFrame f)] = [wireBytes f] :=
        tracedBytes_frame Action.noConfusion htaken.valid
      exact h.grow rfl rfl rfl hrows
  | passed i p f rest ac _ htaken hac _ _ =>
      have hrelay : TraceExact (relayBytes (emitFrameTrace (b.seat i (some (p.reads rest))) f ac)
          (some p.sock.handle) (wireBytes f)) :=
        h.grow rfl rfl rfl (tracedBytes_frame hac htaken.valid)
      rw [pcanBridgeSendIfOpen]
      split
      · exact hrelay
      · split
        · exact hrelay
        · exact ⟨hrelay.silent, hrelay.rows⟩
  | dropped i p rest rows _ hrows =>
      have hseat : ((b.seat i (some (p.reads rest))).traced rows).peers i = some (p.reads rest) :=
        Function.update_self i _ b.peers
      have herrors : TraceExact ((b.seat i (some (p.reads rest))).traced rows) :=
        h.still rfl rfl rfl (tracedBytes_errors hrows)
      rcases dropPeer_cases hseat with ⟨-, heq⟩ | ⟨u, port, -, -, heq⟩ | ⟨u, port, -, -, heq⟩
      · rw [heq]
        exact ⟨herrors.silent, herrors.rows⟩
      · rw [heq]
        have hport : tracedBytes [.disconnected port] = [] := rfl
        exact herrors.still rfl rfl rfl hport
      · rw [heq]
        have hac : Action.loss ≠ .error := Action.noConfusion
        have hloss : tracedBytes [.disconnected port,
            .frame .loss (toFrame (fillPeerLoss (b.peerPool u)))]
              = [wireBytes (fillPeerLoss (b.peerPool u))] :=
          tracedBytes_frame hac (fillPeerLoss_valid (b.peerPool u))
        exact herrors.grow rfl rfl rfl hloss
  | bridged m f _ hm =>
      exact h.grow rfl rfl rfl
        (tracedBytes_frame (pcanAction_ne f m.id) (pcanReadFrame_valid hm).1)

/-- **The trace is the bus**: without `--quiet` the rows about frames, errors apart, are the
    messages of the bus, each one once and in its order; with it there are no rows at all. -/
theorem hub_trace (pcanOpen : Bool) (rounds : List Selected) :
    tracedBytes (busRun false pcanOpen rounds).trace
      = (busRun false pcanOpen rounds).log.map Entry.message ∧
    (busRun true pcanOpen rounds).trace = [] := by
  have hrun : ∀ quiet, (busRun quiet pcanOpen rounds).quiet = quiet ∧
      TraceExact (busRun quiet pcanOpen rounds) := by
    intro quiet
    refine busRun_invariant (I := fun b => b.quiet = quiet ∧ TraceExact b)
      (fun b b' hact h => ⟨(hubAct_quiet hact).trans h.1, traceExact_act hact h.2⟩)
      ⟨rfl, fun _ => rfl, fun _ => rfl⟩ rounds
  exact ⟨(hrun false).2.rows (hrun false).1, (hrun true).2.silent (hrun true).1⟩

end Trace

end SofaHub
