import Sofa.UsdoRaw
import Sofa.UsdoFormat
import Sofa.Lib.Broadcast
import Sofa.Lib.Machine

/-! # The bus hub

    `bus_common.c` and `fbsec_co_fd_bus.c`: one process to which every client and every server
    connects over TCP.  It takes one frame at a time off a connection, checks it, and sends its
    bytes to every other connection; a PCAN adapter, when one is open, is a further member.

    A slot of the peer table that is in use holds its connection, and the loops over the table
    that touch one slot at a time are functions of the slot.  Beside what the source keeps, the
    hub keeps what went over the bus (`log`) and the connections that it closed (`gone`), for the
    statements about it. -/

namespace SofaHub

open ByteBlock FixedBuffer Machine Broadcast SofaDevice SofaUsdo SofaUsdoRaw SofaFraming
open SofaUsdoFormat (lenToDlc padded)

/-! ## Constants -/

abbrev fdSetsize : Nat := 64
/-- `FBSEC_BUS_MAX_PEERS`, and `MAX_PEERS` of the pool. -/
abbrev maxPeers : Nat := fdSetsize - 1
abbrev simNameMax : Nat := 30
abbrev simPeerAnnounce : UInt32 := 0x1FFFFFE0
abbrev simPeerLoss : UInt32 := 0x1FFFFFE1
abbrev simFrameError : UInt32 := 0x1FFFFFEF
abbrev simErrUnknownCanid : UInt8 := 0x05
abbrev simErrUsdoMalformed : UInt8 := 0x06
abbrev simErrDupAnnounce : UInt8 := 0x07
abbrev pcanMessageExtended : UInt8 := 0x02
abbrev pcanMessageFd : UInt8 := 0x04
abbrev pcanMessageBrs : UInt8 := 0x08

/-! ## Connections -/

/-- An accepted connection: what comes from the peer, how the next calls of `send` end (an error,
    or at most so many bytes more than one; all of them when nothing is said), and what was sent.
    `stream` is all that comes over the connection, `joined` the place in the log at which it was
    accepted, and `torn` says that a send of an idle tick failed. -/
structure Conn where
  handle : Nat
  inbox : Socket
  sends : List (Option Nat)
  outbox : List UInt8 := []
  stream : List UInt8
  joined : Nat
  torn : Bool := false

/-- `send`: how many bytes were taken; `none` is an error. -/
def send (c : Conn) (bytes : List UInt8) : Option Nat × Conn :=
  match c.sends with
  | [] => (some bytes.length, { c with outbox := c.outbox ++ bytes })
  | none :: sends => (none, { c with sends })
  | some k :: sends =>
      (some (min (k + 1) bytes.length),
        { c with sends, outbox := c.outbox ++ bytes.take (k + 1) })

/-- The loop of `fbsec_bus_send_all`. -/
def sendAllLoop : Nat → Conn → List UInt8 → Bool × Conn
  | 0, c, _ => (false, c)
  | fuel + 1, c, rest =>
      if rest = [] then (true, c)
      else
        match send c rest with
        | (none, c) => (false, c)
        | (some r, c) => sendAllLoop fuel c (rest.drop r)

/-- `fbsec_bus_send_all`. -/
def sendAll (c : Conn) (bytes : List UInt8) : Bool × Conn := sendAllLoop (bytes.length + 1) c bytes

/-! ## The state -/

/-- `fd_peer_t`; the length of the name fits its array. -/
structure FdPeer where
  announced : Bool := false
  role : UInt8 := 0
  nodeId : UInt8 := 0
  nameLen : UInt8 := 0
  name : Block simNameMax := zero simNameMax
  tcpPort : UInt16 := 0
  fits : nameLen.toNat ≤ simNameMax

/-- A place that was just taken: all zero but for the port. -/
def freshPeer (tcpPort : UInt16) : FdPeer := { nameLen := 0, tcpPort, fits := Nat.zero_le 30 }

/-- `bus_peer_t` of a slot that is in use; the variant's state is a place in its pool. -/
structure BusPeer where
  sock : Conn
  tcpPort : UInt16
  user : Option (Fin maxPeers)

/-- A slot that was given up, when the log had this length, by a failed send of a relay (`cut`) or
    by `drop_peer`. -/
structure Gone where
  peer : BusPeer
  left : Nat
  cut : Bool

/-- `fbsec_pcan_msg_fd_t`. -/
structure PcanMsg where
  id : UInt32
  msgtype : UInt8
  dlc : UInt8
  data : Block 64
  deriving DecidableEq

/-- The action labels of the trace. -/
inductive Action where
  | usdoReq
  | usdoRsp
  | usdoAbt
  | announce
  | loss
  | error
  | none
  deriving DecidableEq

/-- A row of the trace. -/
inductive Row where
  | connected (tcpPort : UInt16)
  | disconnected (tcpPort : UInt16)
  | frame (ac : Action) (f : Frame)
  deriving DecidableEq

/-- The hub. -/
structure Bus where
  quiet : Bool
  peers : Fin maxPeers → Option BusPeer
  peerPool : Fin maxPeers → FdPeer
  peerInUse : Fin maxPeers → Bool
  pcanOpen : Bool
  pcanTx : List PcanMsg
  trace : List Row
  accepted : Nat
  log : List (Entry Nat (List UInt8))
  gone : List Gone

/-- The hub before its event loop; `quiet` is the option `--quiet`. -/
def busStart (quiet pcanOpen : Bool) : Bus where
  quiet
  peers _ := none
  peerPool _ := freshPeer 0
  peerInUse _ := false
  pcanOpen
  pcanTx := []
  trace := []
  accepted := 0
  log := []
  gone := []

/-- The slots in the order of the loops. -/
def slots : List (Fin maxPeers) := List.finRange maxPeers

/-! ## Relaying -/

/-- The body of the loop of `fbsec_bus_relay_bytes`: whether the slot stays in use. -/
def relayPeer (origin : Option Nat) (bytes : List UInt8) (p : BusPeer) : Bool × BusPeer :=
  if some p.sock.handle = origin then (true, p)
  else ((sendAll p.sock bytes).1, { p with sock := (sendAll p.sock bytes).2 })

/-- `fbsec_bus_relay_bytes`: a slot whose send fails is closed, and its state in the pool with it
    out of reach. -/
def relayBytes (b : Bus) (origin : Option Nat) (bytes : List UInt8) : Bus :=
  let log := b.log ++ [⟨origin, bytes⟩]
  { b with
    log
    peers := fun i => (b.peers i).bind fun p =>
      if (relayPeer origin bytes p).1 then some (relayPeer origin bytes p).2 else none
    gone := b.gone ++ slots.filterMap fun i => (b.peers i).bind fun p =>
      if (relayPeer origin bytes p).1 then none
      else some ⟨(relayPeer origin bytes p).2, log.length, true⟩ }

/-- `send_to_peer_visitor`: a send that fails is not looked at. -/
def sendToPeerVisitor (bytes : List UInt8) (p : BusPeer) : BusPeer :=
  let out := sendAll p.sock bytes
  { p with sock := { out.2 with torn := out.2.torn || !out.1 } }

/-- `fbsec_bus_each_peer` without a slot to skip, with this visitor. -/
def eachPeer (b : Bus) (bytes : List UInt8) : Bus :=
  { b with
    log := b.log ++ [⟨none, bytes⟩]
    peers := fun i => (b.peers i).map (sendToPeerVisitor bytes) }

/-! ## Frames of the hub -/

/-- `fbsec_co_fd_frame_init`. -/
def frameInit (canId : UInt32) (extended : Bool) : RawFrame where
  canId := (canId &&& canIdValue) ||| (if extended then canIdFlagIde else 0)
  flags := 0
  len := 0
  payload := zero 64

/-- `fbsec_co_fd_frame_id_value`. -/
def frameIdValue (f : RawFrame) : UInt32 := f.canId &&& canIdValue

/-- `fbsec_bus_emit_trace_row`, up to the number and the text of the row. -/
def emitTraceRow (b : Bus) (row : Row) : Bus :=
  { b with trace := if b.quiet then b.trace else b.trace ++ [row] }

/-- `emit_frame_trace`. -/
def emitFrameTrace (b : Bus) (f : RawFrame) (ac : Action) : Bus :=
  emitTraceRow b (.frame ac (toFrame f))

/-- `emit_carrier_error`. -/
def emitCarrierError (b : Bus) (errCode : UInt8) : Bus :=
  emitFrameTrace b
    { frameInit simFrameError true with payload := store (zero 64) 0 [errCode], len := 1 } .error

/-- The bytes of the name in an announcement. -/
def nameBytes (f : RawFrame) : Nat :=
  if f.len.toNat > 2 then min (f.len.toNat - 2) simNameMax else 0

theorem nameBytes_le (f : RawFrame) : nameBytes f ≤ simNameMax := by
  rw [nameBytes]
  split
  · exact Nat.min_le_right _ _
  · exact Nat.zero_le _

theorem nameLen_toNat (f : RawFrame) : (UInt8.ofNat (nameBytes f)).toNat = nameBytes f := by
  have hle : nameBytes f ≤ 30 := nameBytes_le f
  rw [UInt8.toNat_ofNat']
  exact Nat.mod_eq_of_lt (by omega)

/-- `record_announce`. -/
def recordAnnounce (p : FdPeer) (f : RawFrame) : FdPeer :=
  { p with
    announced := true
    role := if f.len.toNat ≥ 1 then byteAt f 0 else p.role
    nodeId := if f.len.toNat ≥ 2 then byteAt f 1 else p.nodeId
    name := store p.name 0 (load f.payload 2 (nameBytes f))
    nameLen := UInt8.ofNat (nameBytes f)
    fits := (nameLen_toNat f).trans_le (nameBytes_le f) }

/-- `fill_peer_loss`. -/
def fillPeerLoss (p : FdPeer) : RawFrame :=
  { frameInit simPeerLoss true with
    payload := store (zero 64) 0 ([p.role, p.nodeId] ++ load p.name 0 p.nameLen.toNat)
    len := UInt8.ofNat (2 + p.nameLen.toNat) }

/-- `fbsec_co_fd_frame_serialize` into a buffer of `FBSEC_CO_FD_WIRE_MAX`, and the relay. -/
def relayFrame (b : Bus) (origin : Option Nat) (f : RawFrame) : Bus :=
  match frameSerialize f wireMax with
  | some bytes => relayBytes b origin bytes
  | none => b

/-! ## The PCAN bridge -/

/-- `can_id_is_sim_only`. -/
def canIdIsSimOnly (canId : UInt32) : Bool :=
  canId = simPeerAnnounce || canId = simPeerLoss || canId = simFrameError

/-- `dlc_to_len`. -/
def dlcToLen (dlc : UInt8) : UInt8 :=
  [0, 1, 2, 3, 4, 5, 6, 7, 8, 12, 16, 20, 24, 32, 48, 64].getD (dlc &&& 0x0F).toNat 0

/-- The message that `fbsec_pcan_write_fd` hands to the driver; `none` when it is refused. -/
def pcanWriteFd (canId : UInt32) (extended brs : Bool) (data : List UInt8) (len : UInt8) :
    Option PcanMsg :=
  if len > 64 then none
  else some {
    id := canId
    msgtype := pcanMessageFd ||| (if extended then pcanMessageExtended else 0)
      ||| (if brs then pcanMessageBrs else 0)
    dlc := (lenToDlc len.toNat).2
    data := store (zero 64) 0 data }

/-- `pcan_bridge_send_if_open`. -/
def pcanBridgeSendIfOpen (b : Bus) (f : RawFrame) : Bus :=
  if !b.pcanOpen then b
  else if canIdIsSimOnly (frameIdValue f) then b
  else
    let m := pcanWriteFd (frameIdValue f) (f.canId &&& canIdFlagIde != 0)
      (f.flags &&& flagBrs != 0) f.data f.len
    { b with pcanTx := b.pcanTx ++ m.toList }

/-- The frame that `cb_on_idle_tick` makes of what `fbsec_pcan_read_fd` returns. -/
def pcanFrame (m : PcanMsg) : RawFrame :=
  { frameInit m.id (m.msgtype &&& pcanMessageExtended != 0) with
    flags := if m.msgtype &&& pcanMessageBrs != 0 then flagBrs else 0
    payload := store (zero 64) 0 (load m.data 0 (dlcToLen m.dlc).toNat)
    len := dlcToLen m.dlc }

/-- The checks of `cb_on_idle_tick`. -/
def pcanReadFrame (m : PcanMsg) : Option RawFrame :=
  if canIdIsSimOnly m.id then none
  else if (dlcToLen m.dlc).toNat > payloadMax then none
  else if frameValidate (pcanFrame m) ≠ .ok then none
  else some (pcanFrame m)

/-- The label of a frame that comes from the adapter. -/
def pcanAction (f : RawFrame) (canId : UInt32) : Action :=
  match (canIdSplit canId).2 with
  | .none => .none
  | .request => .usdoReq
  | .response => if f.len.toNat ≥ 2 && byteAt f 1 = cmdAbort then .usdoAbt else .usdoRsp

/-- The body of the loop of `cb_on_idle_tick`, for a message that was read. -/
def bridgeMessage (b : Bus) (m : PcanMsg) : Bus :=
  match pcanReadFrame m with
  | none => b
  | some f =>
      let b := emitFrameTrace b f (pcanAction f m.id)
      match frameSerialize f wireMax with
      | some bytes => eachPeer b bytes
      | none => b

/-- `cb_on_idle_tick`, with the messages in the receive queue. -/
def cbOnIdleTick (b : Bus) (queue : List PcanMsg) : Bus :=
  if !b.pcanOpen then b else queue.foldl bridgeMessage b

/-! ## Peers -/

/-- `alloc_peer`. -/
def allocPeer (b : Bus) : Option (Fin maxPeers) := slots.find? fun i => !b.peerInUse i

/-- `cb_on_peer_accepted`. -/
def cbOnPeerAccepted (b : Bus) (tcpPort : UInt16) : Option (Fin maxPeers) × Bus :=
  match allocPeer b with
  | none => (none, b)
  | some u =>
      let b := { b with
        peerInUse := Function.update b.peerInUse u true
        peerPool := Function.update b.peerPool u (freshPeer tcpPort) }
      (some u, emitTraceRow b (.connected tcpPort))

/-- A connection that waits at the listening socket. -/
structure Arrival where
  tcpPort : UInt16
  inbox : Socket
  sends : List (Option Nat)

/-- `accept_new_peer`; a connection that finds the table full is closed. -/
def acceptNewPeer (b : Bus) (a : Arrival) : Bus :=
  match slots.find? fun i => (b.peers i).isNone with
  | none => { b with accepted := b.accepted + 1 }
  | some i =>
      let (user, b) := cbOnPeerAccepted b a.tcpPort
      let sock : Conn :=
        { handle := b.accepted, inbox := a.inbox, sends := a.sends, stream := a.inbox.flatten,
          joined := b.log.length }
      { b with
        accepted := b.accepted + 1
        peers := Function.update b.peers i (some { sock, tcpPort := a.tcpPort, user }) }

/-- The label of a USDO frame that a peer sent. -/
def usdoAction (kind : UsdoKind) (cmd : UInt8) : Action :=
  match kind with
  | .request => .usdoReq
  | _ => if cmd = cmdAbort then .usdoAbt else .usdoRsp

/-- `cb_on_peer_readable` for the peer in a slot: whether it stays connected.  The frame on the
    stack holds `stale` before it is read. -/
def cbOnPeerReadable (b : Bus) (i : Fin maxPeers) (p : BusPeer) (stale : RawFrame) : Bool × Bus :=
  let out := readOneFrame stale p.sock.inbox
  let f := out.2.1
  let p := { p with sock := { p.sock with inbox := out.2.2.1 } }
  let b := { b with peers := Function.update b.peers i (some p) }
  if out.1 ≤ 0 then (false, out.2.2.2.elim b (emitCarrierError b))
  else if frameIdValue f = simPeerAnnounce then
    if p.user.any fun u => (b.peerPool u).announced then
      (false, emitCarrierError b simErrDupAnnounce)
    else
      let pool := p.user.elim b.peerPool fun u =>
        Function.update b.peerPool u (recordAnnounce (b.peerPool u) f)
      let b := emitFrameTrace { b with peerPool := pool } f .announce
      (true, relayFrame b (some p.sock.handle) f)
  else if frameIdValue f = simPeerLoss || frameIdValue f = simFrameError then
    (false, emitCarrierError b simErrUnknownCanid)
  else
    let kind := (canIdSplit (frameIdValue f)).2
    if kind ≠ .none then
      let pdu := decodeRaw f ⟨0, 0, 0, 0, 0, 0, false, 0, 0, 0, 0, 0, none⟩
      if pdu.1 ≠ none then (false, emitCarrierError b simErrUsdoMalformed)
      else
        let b := emitFrameTrace b f (usdoAction kind pdu.2.cmd)
        let b := relayFrame b (some p.sock.handle) f
        (true, pcanBridgeSendIfOpen b f)
    else (false, emitCarrierError b simErrUnknownCanid)

/-- `cb_on_peer_dropped`, with `free_peer`. -/
def cbOnPeerDropped (b : Bus) (p : BusPeer) : Bus :=
  match p.user with
  | none => b
  | some u =>
      let peer := b.peerPool u
      let b := emitTraceRow b (.disconnected peer.tcpPort)
      let b :=
        if peer.announced then
          let loss := fillPeerLoss peer
          relayFrame (emitFrameTrace b loss .loss) (some p.sock.handle) loss
        else b
      { b with peerInUse := Function.update b.peerInUse u false }

/-- `drop_peer`. -/
def dropPeer (b : Bus) (i : Fin maxPeers) : Bus :=
  match b.peers i with
  | none => b
  | some p =>
      let b := { b with
        peers := Function.update b.peers i none
        gone := b.gone ++ [⟨p, b.log.length, false⟩] }
      cbOnPeerDropped b p

/-! ## The event loop -/

/-- What `select` returns with: the timeout, and then what the receive queue of the adapter holds,
    or the connection that waits at the listener and the sockets that are readable; with the
    frames that the stack holds. -/
inductive Selected where
  | timeout (queue : List PcanMsg)
  | ready (listener : Option Arrival) (readable : Nat → Bool) (stale : Fin maxPeers → RawFrame)

/-- The sockets that are put into the set of a `select`. -/
def fdSet (b : Bus) : List Nat := slots.filterMap fun i => (b.peers i).map (·.sock.handle)

/-- The body of the loop over the slots in `run_event_loop`. -/
def servePeer (rfds : Nat → Bool) (stale : Fin maxPeers → RawFrame) (b : Bus) (i : Fin maxPeers) :
    Bus :=
  match b.peers i with
  | none => b
  | some p =>
      if rfds p.sock.handle then
        let (ok, b) := cbOnPeerReadable b i p (stale i)
        if ok then b else dropPeer b i
      else b

/-- A round of `run_event_loop`. -/
def busStep (b : Bus) (sel : Selected) : Bus :=
  match sel with
  | .timeout queue => cbOnIdleTick b queue
  | .ready listener readable stale =>
      let rfds := fun h => readable h && (fdSet b).contains h
      let b := listener.elim b (acceptNewPeer b)
      slots.foldl (servePeer rfds stale) b

/-- The hub after a number of rounds. -/
def busRun (quiet pcanOpen : Bool) (rounds : List Selected) : Bus :=
  run busStep (busStart quiet pcanOpen) rounds

end SofaHub
