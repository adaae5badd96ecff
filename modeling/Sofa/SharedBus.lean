import Sofa.Carrier
import Sofa.Lib.Pending

/-! # One client and several servers on a bus

    The transfers of the CANopen FD client on a bus it shares with any number of servers, one
    a node id, and with other honest nodes.  A script, which may be anything, says what the
    bus does: when a request in flight is handled, what the other nodes send, which frame the
    client receives next, and when it gives up.  Every request that goes out and every frame
    the servers send is tagged with what it is, and `log` holds, for each request of the
    client, the frame that it took for the response.

    The script may delay, reorder and drop.  It cannot deliver a frame twice, nor a reply to
    a transfer after which the client began 255 others, and the other nodes are honest:
    those three restrictions are `Network.without`, `Network.timely` and `honest`. -/

namespace SofaSharedBus

open SofaConfig SofaDevice SofaUsdo SofaUsdoServer SofaUsdoClient SofaAddressing SofaReassembly
  SofaCarrier StateWp
open SofaClient (SecpError)

/-! ## Frames on the bus -/

/-- A request frame of the client: its number among all that the client sent, and that of the
    transfer it belongs to. -/
structure Request where
  number : Nat
  transfer : Nat
  frame : Frame
  deriving DecidableEq

/-- A frame of another node: what a server sent for a request of this client, or something
    else. -/
inductive Posted where
  | reply (node : UInt8) (request : Request) (frame : Frame)
  | traffic (frame : Frame)
  deriving DecidableEq

def Posted.frame : Posted → Frame
  | .reply _ _ f => f
  | .traffic f => f

/-- The request of this client that the frame answers. -/
def Posted.request : Posted → Option Request
  | .reply _ r _ => some r
  | .traffic _ => none

/-- One `round_trip`: the request it sent and the frame it took for the response. -/
structure Exchange where
  request : Request
  taken : Option Posted
  deriving DecidableEq

/-- What the bus does next. -/
inductive BusEvent where
  /-- A request in flight is handled. -/
  | hear (i : Nat)
  /-- Another node sends a frame. -/
  | other (f : Frame)
  /-- A frame that was sent arrives at the client. -/
  | arrive (i : Nat)
  /-- The deadline of the client passes. -/
  | timeout
  /-- The carrier of the client is closed. -/
  | closed

/-- A frame of an honest node that is none of the servers: it comes from another node than the
    client, and it is no response to the client. -/
def honest (client : UInt8) (f : Frame) : Bool :=
  match decode f with
  | .error _ => true
  | .ok pdu => pdu.srcNode != client
      && !((canIdSplit f.idValue).2 == .response && pdu.dstNode == client)

/-! ## The bus -/

/-- At most one server a node id. -/
abbrev Servers (D : Type) := (node : UInt8) → Option { s : UsdoServer D // s.nodeId = node }

/-- The servers, the static session counter of the client, how many transfers it began and how
    many requests it sent, what is in flight to the servers and to the client, and what the
    bus is yet to do. -/
structure Network (D : Type) where
  servers : Servers D
  usdoSession : UInt8 := 0
  transfers : Nat := 0
  requests : Nat := 0
  flying : List Request := []
  posted : List Posted := []
  log : List Exchange := []
  script : List BusEvent

variable {D : Type}

/-- A frame on the bus: the server it is for handles it, the others skip it. -/
def Servers.handle (disp : Dispatcher D) (servers : Servers D) (f : Frame) :
    List Frame × Servers D :=
  match servers (f.byte 0) with
  | none => ([], servers)
  | some s => ((handled disp s.1 f).sent, Function.update servers (f.byte 0)
      (some ⟨(handled disp s.1 f).server, (handled_replied disp s.1 f).1.trans s.2⟩))

/-- A request in flight is handled, once. -/
def Network.hear (disp : Dispatcher D) (n : Network D) (i : Nat) : Network D :=
  match n.flying[i]? with
  | none => n
  | some r =>
      let out := n.servers.handle disp r.frame
      { n with
        servers := out.2
        flying := n.flying.eraseIdx i
        posted := n.posted ++ out.1.map (.reply (r.frame.byte 0) r) }

/-- A frame of another node goes out, and what a server answers it. -/
def Network.other (disp : Dispatcher D) (client : UInt8) (n : Network D) (f : Frame) :
    Network D :=
  if honest client f then
    let out := n.servers.handle disp f
    { n with servers := out.2, posted := n.posted ++ .traffic f :: out.1.map .traffic }
  else n

/-- Fewer than 255 transfers began after the one a reply belongs to. -/
def Network.timely (n : Network D) : Posted → Bool
  | .reply _ r _ => n.transfers - r.transfer < 255
  | .traffic _ => true

/-- A frame that arrived does not arrive again. -/
def Network.without (n : Network D) (i : Nat) : Network D :=
  { n with posted := n.posted.eraseIdx i }

/-- A round trip that ended. -/
def Network.ended (n : Network D) (r : Request) (taken : Option Posted)
    (script : List BusEvent) : Network D :=
  { n with log := n.log ++ [⟨r, taken⟩], script := script }

/-! ## The client on the bus -/

/-- `next_session`. -/
def nextSession : StateM (Network D) UInt8 := fun n =>
  (sessionAfter n.usdoSession,
    { n with usdoSession := sessionAfter n.usdoSession, transfers := n.transfers + 1 })

/-- The receive loop of `round_trip`, and what the bus does meanwhile. -/
def receive (disp : Dispatcher D) (client : UInt8) (r : Request) (e : Expected) :
    List BusEvent → Network D → Except SecpError Pdu × Network D
  | [], n => (.error .timeout, n.ended r none [])
  | .timeout :: script, n => (.error .timeout, n.ended r none script)
  | .closed :: script, n => (.error .tx, n.ended r none script)
  | .hear i :: script, n => receive disp client r e script (n.hear disp i)
  | .other f :: script, n => receive disp client r e script (n.other disp client f)
  | .arrive i :: script, n =>
      match n.posted[i]? with
      | none => receive disp client r e script n
      | some p =>
          if n.timely p then
            match responsePdu client e p.frame with
            | none => receive disp client r e script (n.without i)
            | some pdu => (answer e pdu, (n.without i).ended r (some p) script)
          else receive disp client r e script n

/-- The request of the client that goes out next. -/
def Network.request (n : Network D) (f : Frame) : Request := ⟨n.requests, n.transfers, f⟩

/-- The client sends a frame. -/
def Network.send (n : Network D) (f : Frame) : Network D :=
  { n with requests := n.requests + 1, flying := n.flying ++ [n.request f] }

/-- `round_trip`; a carrier that is closed sends nothing. -/
def roundTrip (disp : Dispatcher D) (client : UInt8) (f : Frame) (e : Expected) :
    StateM (Network D) (Except SecpError Pdu) := fun n =>
  match n.script with
  | .closed :: script => (.error .tx, { n with script := script })
  | script => receive disp client (n.request f) e script (n.send f)

/-- The bus carries the transfers of the client. -/
def busCarrier (disp : Dispatcher D) (client : UInt8) : Carrier (Network D) :=
  ⟨nextSession, roundTrip disp client⟩

/-- A call of the client's transport. -/
inductive TransferCall where
  | read (deviceId : UInt16) (dataId : UInt32) (body : List UInt8) (cap : Nat)
  | write (deviceId : UInt16) (dataId : UInt32) (body : List UInt8)

/-- The server the call addresses. -/
def TransferCall.target : TransferCall → UInt8
  | .read deviceId .. => deviceId.toUInt8
  | .write deviceId .. => deviceId.toUInt8

/-- The call; a write has no reply. -/
def perform (disp : Dispatcher D) (client : UInt8) :
    TransferCall → StateM (Network D) (Except SecpError (List UInt8))
  | .read deviceId dataId body cap =>
      (busCarrier disp client).transportRead client deviceId dataId body cap
  | .write deviceId dataId body => do
      match ← (busCarrier disp client).transportWrite client deviceId dataId body with
      | .error e => pure (.error e)
      | .ok _ => pure (.ok [])

/-- One call after another. -/
def callStep (disp : Dispatcher D) (client : UInt8) (n : Network D) (c : TransferCall) :
    Network D :=
  (perform disp client c n).2

/-- The client is started: its statics are zero, and nothing is in flight. -/
def boot (servers : Servers D) (script : List BusEvent) : Network D :=
  { servers := servers, script := script }

end SofaSharedBus
