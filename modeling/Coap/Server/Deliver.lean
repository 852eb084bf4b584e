import Coap.Server.Basic

/-!
# Delivery

`Server.deliver` takes a message that arrived and says what is answered; what was sent before is in the
journal. Replies to messages get no answer. A confirmable message that is no request is rejected with a
reset. A request is dispatched if it is new, and otherwise gets what the request it repeats got first.
-/

namespace Coap.Server

variable {ν : Type}

/-- What becomes of a request that a handler delivers once more. -/
def redelivery (s : Server ν) : Redelivery :=
  match s.deliverer with
  | .dispatcher => .duplicate s.config.duplicateWait
  | .fixed answer => .answered fun m => answer m none

/-- Dispatch a new request, whose exchange is retained. -/
def dispatch (s : Server ν) (exchange : Exchange) : Server ν × Exchange :=
  let h := (Handling.start s.site exchange s.redelivery).dispatch
  ({ s with site := h.site, dedup := s.dedup.amend exchange.key fun _ => h.exchange }, h.exchange)

/-- Answer a duplicate of the request of a retained exchange. Its handler is through, so that nothing
more is deposited while the duplicate waits. -/
def replay (s : Server ν) (retained : Exchange) : Server ν × Option (Addressed Response) :=
  let (site, first) := s.site.replay retained s.config.duplicateWait
  ({ s with site }, first)

/-- Handle a request, or recognise it as a duplicate. -/
def handleRequest (s : Server ν) (m : Addressed Message) (session : Option Session) :
    Server ν × Option (Addressed Response) :=
  let exchange := Exchange.new m session s.site.now
  match s.dedup.offer exchange.key exchange s.site.now with
  | (dedup, some retained) => { s with dedup }.replay retained
  | (dedup, none) =>
    let (s, exchange) := { s with dedup }.dispatch exchange
    (s, exchange.latest?)

/-- The reset that rejects a message. -/
def reset (m : Addressed Message) (session : Option Session) : Addressed Response :=
  ⟨{ Response.ofMessage m.data.reset with session }, m.addr⟩

/-- Take a message to the resources. -/
def deliver (s : Server ν) (m : Addressed Message) (session : Option Session) :
    Server ν × Option (Addressed Response) :=
  match m.data.type, m.data.code.kind with
  | .ack, _ => (s, none)
  | .rst, _ => (s, none)
  | .con, .empty => (s, some (reset m session))
  | _, .request => s.handleRequest m session
  | .con, _ => (s, some (reset m session))
  | .non, _ => (s, none)

/-- Take a message to a deliverer. -/
def deliverTo (s : Server ν) (d : Deliverer) (m : Addressed Message) (session : Option Session) :
    Server ν × Option (Addressed Response) :=
  match d with
  | .dispatcher => s.deliver m session
  | .fixed answer => (s, answer m session)

end Coap.Server
