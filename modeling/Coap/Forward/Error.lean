import Coap.Code
import Coap.Http.Uri

/-!
# What can go wrong on the second hop

A request that is carried on to another server can fail in four ways, each with a response code of its
own: its target is missing or unusable, the origin's answer is, the origin is late, or the hop fails
here.
-/

namespace Coap

/-- Why a message has no counterpart in the other protocol. -/
inductive MappingError where
  /-- HTTP has no such method. -/
  | unsupportedMethod (code : Code)
  /-- No response code stands for the status. -/
  | unsupportedStatus (status : Nat)
  /-- The content format has no media type. -/
  | unsupportedContentFormat (number : UInt16)
  /-- The origin answered with something else than a response. -/
  | notAResponse (code : Code)
  /-- The target makes no HTTP request. -/
  | uri (cause : Http.UriError)
deriving DecidableEq, Repr

/-- What went wrong, for people. -/
def MappingError.message : MappingError → String
  | .unsupportedMethod code => s!"no HTTP equivalent of method {code.text}"
  | .unsupportedStatus status => s!"no CoAP equivalent of HTTP status {status}"
  | .unsupportedContentFormat n => s!"no media type for content format {n.toNat}"
  | .notAResponse code => s!"origin answered with non-response code {code.text}"
  | .uri cause => cause.message

/-- How forwarding a request ends when it fails. -/
inductive ForwardFailure where
  /-- The target is missing or unusable. -/
  | badOption
  /-- The origin's answer could not be had or not be used. -/
  | badGateway
  /-- The origin did not answer in time. -/
  | gatewayTimeout
  /-- The second hop failed here. -/
  | internalError
deriving DecidableEq, Repr, Inhabited

/-- The name of the ending in messages to people. -/
def ForwardFailure.text : ForwardFailure → String
  | .badOption => "BadOption"
  | .badGateway => "BadGateway"
  | .gatewayTimeout => "GatewayTimeout"
  | .internalError => "InternalError"

/-- The response code for the client. -/
def ForwardFailure.code : ForwardFailure → Code
  | .badOption => .badOption
  | .badGateway => .badGateway
  | .gatewayTimeout => .gatewayTimeout
  | .internalError => .internalServerError

/-- Why a request could not be forwarded. -/
inductive ForwardError where
  /-- The target is missing or unusable. -/
  | badOption (cause : String)
  /-- The origin's answer could not be had or not be used. -/
  | badGateway (cause : String)
  /-- The origin did not answer in time. -/
  | gatewayTimeout
  /-- The second hop failed here. -/
  | internalError (cause : String)
deriving DecidableEq, Repr

namespace ForwardError

/-- How forwarding ended. -/
def failure : ForwardError → ForwardFailure
  | .badOption _ => .badOption
  | .badGateway _ => .badGateway
  | .gatewayTimeout => .gatewayTimeout
  | .internalError _ => .internalError

/-- The response code for the client. -/
def code (e : ForwardError) : Code := e.failure.code

/-- What went wrong, for people. -/
def message : ForwardError → String
  | .badOption cause => s!"bad proxy target: {cause}"
  | .badGateway cause => s!"bad gateway: {cause}"
  | .gatewayTimeout => "gateway timeout"
  | .internalError cause => s!"internal error: {cause}"

end ForwardError

end Coap
