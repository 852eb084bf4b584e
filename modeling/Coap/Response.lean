import Coap.Addressed
import Coap.Message.Basic
import Coap.Stamped

/-!
# Responses

A response is a message that answers a request. Beside the message it carries the security session of
its exchange, and, when it was fetched from another server, the time at which that was done.
-/

namespace Coap

/-- What answers a request. -/
structure Response where
  /-- The message. -/
  message : Message
  /-- The session of the exchange it belongs to. -/
  session : Option Session
  /-- When it was fetched from another server. -/
  completed : Option Instant
deriving DecidableEq

namespace Response

/-- A response outside any session. -/
def ofMessage (m : Message) : Response := ⟨m, none, none⟩

instance : Inhabited Response := ⟨ofMessage default⟩

/-- The response that acknowledges a request. -/
def ack (request : Message) : Response := ofMessage (.new .ack .content request.id request.token)

/-- A confirmable response that follows an acknowledgement; the transport gives it an id. -/
def con (request : Message) : Response := ofMessage (.new .con .content 0 request.token)

/-- A non-confirmable response; the transport gives it an id. -/
def non (request : Message) : Response := ofMessage (.new .non .content 0 request.token)

/-- The response to a request that is best by its type; acknowledgements and resets have none. -/
def forRequest (request : Message) : Option Response :=
  match request.type with
  | .con => some (ack request)
  | .non => some (non request)
  | .ack | .rst => none

/-- A response with a code and a payload; type, id and token are given to it when it is sent. -/
def ofCode (code : Code) (payload : Bytes) : Response :=
  ofMessage { Message.new .non code 0 .empty with payload }

end Response

end Coap
