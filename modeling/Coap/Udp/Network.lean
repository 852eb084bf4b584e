import Coap.Addressed
import Coap.Stamped

/-!
# A network of datagrams

Sockets are bound to addresses, each to one socket only; port 0 stands for any free port. Whether
datagrams get anywhere at all is up to the network.
-/

namespace Coap.Udp

/-- Why a network refused something. -/
inductive NetworkError where
  /-- Another socket is bound to the address. -/
  | addressInUse
  /-- There is no way to the other side. -/
  | unreachable
  /-- Port 0 is no destination. -/
  | noDestination
deriving DecidableEq, Repr

/-- What went wrong, for people. -/
def NetworkError.message : NetworkError → String
  | .addressInUse => "Address already in use (os error 98)"
  | .unreachable => "Network is unreachable (os error 101)"
  | .noDestination => "Invalid argument (os error 22)"

/-- The sockets of a network and the way between them. -/
structure Network where
  /-- The addresses to which sockets are bound. -/
  bound : List Address
  /-- Do datagrams arrive? -/
  reachable : Bool

namespace Network

/-- The ports given out for port 0. -/
def freePorts : List Nat := List.range' 49152 16384

/-- Do two addresses stand for the same place, the unspecified host standing for all? -/
def overlaps (a b : Address) : Bool :=
  a.port = b.port && (a.ip = b.ip || a.ip = .v4 0 || b.ip = .v4 0)

/-- Is no socket bound to the address? -/
def isFree (net : Network) (a : Address) : Bool := !net.bound.any (overlaps a)

/-- Bind a socket; the address it got is returned. -/
def bind (net : Network) (a : Address) : Except NetworkError (Network × Address) :=
  let wanted :=
    if a.port = 0 then (freePorts.map fun p => { a with port := p.toUInt16 }).find? net.isFree
    else if net.isFree a then some a
    else none
  match wanted with
  | some a => .ok ({ net with bound := a :: net.bound }, a)
  | none => .error .addressInUse

/-- Give up an address. -/
def release (net : Network) (a : Address) : Network := { net with bound := net.bound.erase a }

/-- Send a datagram. The network takes no note of what is in it. -/
def transmit (net : Network) (d : Addressed Bytes) : Except NetworkError Unit :=
  if d.addr.port = 0 then .error .noDestination
  else if net.reachable then .ok ()
  else .error .unreachable

end Network

end Coap.Udp
