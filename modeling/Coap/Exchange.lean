import Coap.Duration
import Coap.Key
import Coap.Resource.Id
import Coap.Response

/-!
# Exchanges

An exchange is a request and everything that is deposited in answer to it: at most one interim
message, the empty acknowledgement that announces a separate response, and then at most one final
message, a response or a reset.

* `Exchange.accept`, `Exchange.complete` — deposit the interim and the final message; both say whether
  they did.
* `Exchange.first?`, `Exchange.latest?` — what answers the request on the message layer, and what was
  deposited last.
-/

namespace Coap

/-- Where an exchange stands. -/
inductive ExchangeState where
  /-- Nothing was deposited yet. -/
  | received
  /-- A separate response was announced. -/
  | accepted
  /-- A response was deposited. -/
  | responded
  /-- A reset was deposited. -/
  | rejected
deriving DecidableEq, Repr, Inhabited

/-- What an exchange did to the observe relation of its request. -/
inductive ObserveMarker where
  /-- Nothing. -/
  | none
  /-- The relation was established. -/
  | established
  /-- The relation was ended. -/
  | canceled
deriving DecidableEq, Repr, Inhabited

/-- A request and what was deposited in answer to it. -/
structure Exchange where
  /-- The request with its sender. -/
  request : Addressed Message
  /-- The session the request arrived in. -/
  session : Option Session
  /-- When the request arrived. -/
  created : Instant
  /-- What was deposited, oldest first. -/
  deposits : List (Stamped (Addressed Response))
  /-- Where the exchange stands. -/
  state : ExchangeState
  /-- What the exchange did to an observe relation. -/
  marker : ObserveMarker
  /-- The resource that handles the request. -/
  resource : Option ResourceId
deriving DecidableEq

namespace Exchange

/-- The exchange that a request starts. -/
def new (request : Addressed Message) (session : Option Session) (now : Instant) : Exchange :=
  { request, session, created := now, deposits := [], state := .received, marker := .none,
    resource := none }

/-- The key under which duplicates of the request are found. -/
def key (e : Exchange) : Key := .ofId e.request

/-- The sender of the request. -/
def peer (e : Exchange) : Address := e.request.addr

/-- A response to the sender of the request, in its session. -/
def reply (e : Exchange) (r : Response) : Addressed Response :=
  ⟨{ r with session := e.session }, e.peer⟩

/-- Was a final message deposited? -/
def isComplete (e : Exchange) : Bool :=
  match e.state with
  | .responded | .rejected => true
  | .received | .accepted => false

/-- Is the exchange older than `lifetime`? -/
def isExpired (e : Exchange) (now : Instant) (lifetime : Duration) : Bool :=
  lifetime.nanos < now - e.created

/-- Everything deposited, oldest first. -/
def responses (e : Exchange) : List (Addressed Response) := e.deposits.map (·.data)

/-- Announce a separate response, and deposit the message that does so, if any. -/
def accept (e : Exchange) (now : Instant) (interim : Option (Addressed Response)) :
    Exchange × Bool :=
  match e.state with
  | .received =>
    ({ e with
        state := .accepted
        deposits := e.deposits ++ (interim.map fun r => ⟨r, now⟩).toList }, true)
  | _ => (e, false)

/-- Deposit the final message, a reset if `rejected`. -/
def complete (e : Exchange) (now : Instant) (final : Addressed Response) (rejected : Bool) :
    Exchange × Bool :=
  if e.isComplete then (e, false)
  else
    ({ e with
        state := if rejected then .rejected else .responded
        deposits := e.deposits ++ [⟨final, now⟩] }, true)

/-- What was deposited first: the answer to the request on the message layer. -/
def first? (e : Exchange) : Option (Addressed Response) := e.deposits.head?.map (·.data)

/-- What was deposited last. -/
def latest? (e : Exchange) : Option (Addressed Response) := (Stamped.latest e.deposits).map (·.data)

end Exchange

end Coap
