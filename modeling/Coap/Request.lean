import Coap.Message.Basic
import Coap.Method

/-!
# Requests

A request is a message with a request code. A new one is confirmable, has id 0 and no token.
-/

namespace Coap.Message

/-- A confirmable request for a path. -/
def request (method : Method) (path : String) : Message :=
  (new .con method.code 0 .empty).setPath path

/-- The method of a request. -/
def method (m : Message) : Method := ⟨m.code⟩

/-- Is this a confirmable or non-confirmable request? Only such a message is handled by a resource. -/
def isRequest (m : Message) : Bool := !m.type.isReply && m.code.kind == .request

end Coap.Message
