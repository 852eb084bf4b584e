import Coap.Server.Deliver
import Coap.Udp.Transport

/-!
# Datagrams

`Server.receive` takes a datagram that reached the socket of an endpoint and gives the datagrams that
leave it in answer: those sent while the message is handled, then the reply. A datagram that is no
message is dropped, and so is an answer that cannot be written; both are reported.
-/

namespace Coap

variable {ν : Type}

/-- The messages sent, of what happened. -/
def Event.sent? : Event ν → Option (Addressed Message)
  | .sent m => some m
  | _ => none

namespace Server

/-- Take a message to a deliverer. The messages that leave in answer are returned, in order. -/
def messagesFor (s : Server ν) (d : Deliverer) (m : Addressed Message) :
    Server ν × List (Addressed Message) :=
  let before := s.site.events.length
  let (s, reply) := s.deliverTo d m none
  let sent := (s.site.events.drop before).filterMap Event.sent?
  (s, sent ++ (reply.map (·.map (·.message))).toList)

/-- Report why a message on its way out could not be written. -/
def reportUnwritten (s : Server ν) (o : Udp.Outgoing) : Server ν :=
  match o.octets with
  | .ok _ => s
  | .error e => s.report .error s!"failed to send to {o.message.addr.text}: {e.message}"

/-- Handle a message that reached the socket of the endpoint at a place. -/
def answerAt (s : Server ν) (i : Nat) (e : Endpoint) (bound : Address) (next : UInt16)
    (d : Deliverer) (m : Addressed Message) : Server ν × List (Addressed Bytes) :=
  let (s, messages) := s.messagesFor d m
  let (next, out) := Udp.outgoing next messages
  let e := { e with transport := .udp (some bound) next }
  let s := { s with endpoints := s.endpoints.set i e }
  (out.foldl reportUnwritten s, out.filterMap Udp.Outgoing.datagram?)

/-- Handle a datagram that reached the socket of the endpoint at a place, if it runs. -/
def receive (s : Server ν) (i : Nat) (datagram : Addressed Bytes) : Server ν × List (Addressed Bytes) :=
  match s.endpoints[i]? with
  | some e@⟨_, .udp (some bound) next, some d, _⟩ =>
    match Udp.read datagram with
    | .ok m => s.answerAt i e bound next d m
    | .error cause =>
      let text := s!"dropping unparseable datagram from {datagram.addr.text}: {cause.message}"
      (s.report .warning text, [])
  | _ => (s, [])

end Server

end Coap
