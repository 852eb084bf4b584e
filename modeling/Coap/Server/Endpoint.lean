import Coap.Exchange
import Coap.Udp.Network

/-!
# Endpoints

An endpoint receives messages at an address and hands them to a deliverer. It is a socket for
datagrams, or something whose messages come from elsewhere.

* `Endpoint.start`, `Endpoint.stop` — both may fail, and say why.
-/

namespace Coap

/-- What becomes of messages that arrive. -/
inductive Deliverer where
  /-- They go to the resources of the server. -/
  | dispatcher
  /-- They are answered in a fixed way. -/
  | fixed (answer : Addressed Message → Option Session → Option (Addressed Response))

/-- What an endpoint was told to do. -/
inductive EndpointCall where
  /-- Begin to receive. -/
  | start
  /-- Receive no more. -/
  | stop
  /-- Hand messages to a deliverer. -/
  | setDeliverer
deriving DecidableEq, Repr

/-- Why an endpoint did not do as it was told. -/
inductive EndpointError where
  /-- The network refused. -/
  | network (cause : Udp.NetworkError)
  /-- There is nothing to hand messages to. -/
  | noDeliverer
  /-- It is in no state to do so. -/
  | invalidState (state : String)
deriving DecidableEq, Repr

/-- What went wrong, for people. -/
def EndpointError.message : EndpointError → String
  | .network cause => s!"i/o error: {cause.message}"
  | .noDeliverer => "no deliverer set"
  | .invalidState state => s!"endpoint is {state}"

/-- Where the messages of an endpoint come from. -/
inductive Transport where
  /-- From elsewhere; `start` and `stop` say how it goes to begin and to end receiving. -/
  | external (start stop : Except EndpointError Unit)
  /-- From a socket, which is bound while the endpoint runs; `nextId` is the id of the next message
  that has none. -/
  | udp (bound : Option Address) (nextId : UInt16)

/-- An endpoint. -/
structure Endpoint where
  /-- The address it is meant for. -/
  address : Address
  /-- Where its messages come from. -/
  transport : Transport
  /-- What they are handed to. -/
  deliverer : Option Deliverer
  /-- What it was told to do, oldest first. -/
  calls : List EndpointCall

namespace Endpoint

/-- An endpoint whose messages come from elsewhere. -/
def external (address : Address) (start stop : Except EndpointError Unit) : Endpoint :=
  ⟨address, .external start stop, none, []⟩

/-- An endpoint with a socket that is not bound yet. -/
def udp (address : Address) (nextId : UInt16) : Endpoint := ⟨address, .udp none nextId, none, []⟩

/-- The address it receives at. -/
def localAddress (e : Endpoint) : Address :=
  match e.transport with
  | .udp (some bound) _ => bound
  | _ => e.address

/-- Does its socket receive? -/
def isRunning (e : Endpoint) : Bool :=
  match e.transport with
  | .udp (some _) _ => true
  | _ => false

/-- Note what it was told. -/
def told (e : Endpoint) (c : EndpointCall) : Endpoint := { e with calls := e.calls ++ [c] }

/-- Hand messages to a deliverer from now on. -/
def setDeliverer (e : Endpoint) (d : Deliverer) : Endpoint :=
  { e.told .setDeliverer with deliverer := some d }

/-- Begin to receive. -/
def start (e : Endpoint) (net : Udp.Network) : Endpoint × Udp.Network × Except EndpointError Unit :=
  let e := e.told .start
  match e.transport with
  | .external result _ => (e, net, result)
  | .udp bound nextId =>
    if e.deliverer.isNone then (e, net, .error .noDeliverer)
    else if bound.isSome then (e, net, .error (.invalidState "already running"))
    else
      match net.bind e.address with
      | .ok (net, a) => ({ e with transport := .udp (some a) nextId }, net, .ok ())
      | .error cause => (e, net, .error (.network cause))

/-- Receive no more. -/
def stop (e : Endpoint) (net : Udp.Network) : Endpoint × Udp.Network × Except EndpointError Unit :=
  let e := e.told .stop
  match e.transport with
  | .external _ result => (e, net, result)
  | .udp (some a) nextId => ({ e with transport := .udp none nextId }, net.release a, .ok ())
  | .udp none _ => (e, net, .ok ())

end Endpoint

end Coap
