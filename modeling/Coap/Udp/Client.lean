import Coap.Forward.Forwarder
import Coap.Udp.Network
import Coap.Udp.Transport

/-!
# A client over datagrams

A client sends a request once, from a socket of its own, and waits for the response: the first message
from the origin that has a response code and the token of the request. A confirmable response is
acknowledged. A reset ends the wait, and so does silence; all else is passed over.

* `Udp.await` — what some datagrams that arrive amount to.
* `Udp.send` — send a request, if it can be written and the network takes it, and wait.
-/

namespace Coap.Udp

/-- A datagram that arrives some time after the one before. -/
structure Arrival where
  /-- Time since the one before, or since the request. -/
  gap : Duration
  /-- The datagram and its sender. -/
  datagram : Addressed Bytes
deriving DecidableEq

/-- How waiting for a response ended. -/
structure Awaited where
  /-- The response, if one came. -/
  response : Option Message
  /-- The acknowledgement sent to the origin, if any. -/
  ack : Option Bytes
  /-- How long it took. -/
  elapsed : Duration
deriving DecidableEq

/-- What a message from the origin means to the client. -/
inductive Reading where
  /-- It is the response. -/
  | response
  /-- The exchange is over. -/
  | reset
  /-- Nothing. -/
  | skip
deriving DecidableEq, Repr

/-- Read a message from the origin, given the token of the request. -/
def Reading.ofMessage (token : Token) (m : Message) : Reading :=
  if m.type = .rst then .reset
  else if m.code.kind = .response ∧ m.token = token then .response
  else .skip

/-- The acknowledgement of a confirmable response. -/
def ackOf (m : Message) : Option Bytes :=
  if m.type = .con then (m.ack m.id).encode.toOption else none

/-- Wait for the response from an origin, giving up when nothing arrives for `timeout`. `spent` is the
time that has passed. -/
def await (timeout : Duration) (origin : Address) (token : Token) (spent : Nat) :
    List Arrival → Awaited
  | [] => ⟨none, none, ⟨spent + timeout.nanos⟩⟩
  | a :: more =>
    if timeout.nanos < a.gap.nanos then ⟨none, none, ⟨spent + timeout.nanos⟩⟩
    else
      let spent := spent + a.gap.nanos
      if a.datagram.addr ≠ origin then await timeout origin token spent more
      else
        match read a.datagram with
        | .error _ => await timeout origin token spent more
        | .ok m =>
          match Reading.ofMessage token m.data with
          | .response => ⟨some m.data, ackOf m.data, ⟨spent⟩⟩
          | .reset => ⟨none, none, ⟨spent⟩⟩
          | .skip => await timeout origin token spent more

/-- Why a request was not sent. -/
inductive SendError where
  /-- There is no time to wait for a response. -/
  | noTime
  /-- It cannot be written. -/
  | unwritable (cause : EncodeError)
  /-- The network refused it. -/
  | network (cause : NetworkError)
deriving DecidableEq

/-- What went wrong, for people. -/
def SendError.message : SendError → String
  | .noTime => "cannot set a 0 duration timeout"
  | .unwritable cause => cause.message
  | .network cause => cause.message

/-- Send a request and wait for its response, on a network that carries `arrivals` back for the
datagram of the request. The datagram is returned as well. -/
def send (net : Network) (timeout : Duration) (arrivals : Addressed Bytes → List Arrival)
    (request : Addressed Message) : Except SendError (Bytes × Awaited) :=
  if timeout.nanos = 0 then .error .noTime
  else
    match request.data.encode with
    | .error cause => .error (.unwritable cause)
    | .ok bytes =>
      let datagram : Addressed Bytes := ⟨bytes, request.addr⟩
      match net.transmit datagram with
      | .error cause => .error (.network cause)
      | .ok () => .ok (bytes, await timeout request.addr request.data.token 0 (arrivals datagram))

/-- The client that sends datagrams. -/
def client (net : Network) (timeout : Duration) (arrivals : Addressed Bytes → List Arrival) :
    CoapClient := fun request =>
  match send net timeout arrivals request with
  | .error e => .error e.message
  | .ok (_, awaited) =>
    match awaited.response with
    | some m => .ok (.response awaited.elapsed (.ofMessage m))
    | none => .ok (.closed awaited.elapsed)

end Coap.Udp
