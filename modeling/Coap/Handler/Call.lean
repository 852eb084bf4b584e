import Coap.Discovery.Link
import Coap.Forward.Forwarder
import Coap.Handler.Shaping
import Coap.Observers

/-!
# What a handler can ask for

While it handles a request, a handler talks to its server in calls. Each has a result of a type of its
own, `Call.Result`.

`ν` is the type of notes that handlers leave.
-/

namespace Coap

/-- Why a handler's answer was refused. -/
inductive RespondError where
  /-- The request has its final answer. -/
  | alreadyResponded
  /-- The code is not that of a response. -/
  | notAResponse (code : Code)
deriving DecidableEq, Repr

/-- What went wrong, for people. -/
def RespondError.message : RespondError → String
  | .alreadyResponded => "exchange already responded to"
  | .notAResponse code => s!"{code.text} is not a response code"

/-- How grave a report is. -/
inductive Severity where
  /-- Something to look at. -/
  | warning
  /-- Something that went wrong. -/
  | error
deriving DecidableEq, Repr

/-- The level of reports so grave. -/
def Severity.text : Severity → String
  | .warning => "WARN"
  | .error => "ERROR"

/-- Something a handler asks its server for. -/
inductive Call (ν : Type) where
  /-- Announce that the response will come separately. -/
  | accept
  /-- Reject the request with a reset. -/
  | reject
  /-- Answer the request. -/
  | respond (r : Response)
  /-- State where the resource stands that was made. -/
  | setLocationPath (path : String)
  /-- State the query of the resource that was made. -/
  | setLocationQuery (query : String)
  /-- State how long the response may be kept. -/
  | setMaxAge (seconds : UInt32)
  /-- State the entity-tag of the response. -/
  | setETag (tag : Bytes)
  /-- Look at the exchange. -/
  | exchange
  /-- Look at what was stated about the response. -/
  | shaping
  /-- List the resources. -/
  | walk
  /-- Ask for the path of a resource. -/
  | pathOf (id : ResourceId)
  /-- Look for the resource at a path. -/
  | findPath (path : String)
  /-- Remove a resource. -/
  | remove (id : ResourceId)
  /-- Change what a resource says about itself. -/
  | setAttributes (id : ResourceId) (attributes : Attributes)
  /-- Change whether a resource accepts observe relations. -/
  | setObservable (id : ResourceId) (observable : Bool)
  /-- Look at the observe relations. -/
  | observers
  /-- Add an observe relation. -/
  | register (id : ResourceId) (relation : Relation)
  /-- Remove an observe relation. -/
  | cancel (id : ResourceId) (key : Key)
  /-- Note a change of a resource. -/
  | changed (id : ResourceId)
  /-- Forget the relations of a resource. -/
  | forget (id : ResourceId)
  /-- Have the same request delivered once more. -/
  | redeliver
  /-- Have a request carried on to its origin. -/
  | forward (f : Forwarder) (request : Addressed Message)
  /-- Report something to people. -/
  | report (severity : Severity) (text : String)
  /-- Leave a note. -/
  | note (n : ν)

/-- What comes back for a call. -/
def Call.Result {ν : Type} : Call ν → Type
  | .accept => Unit
  | .reject => Except RespondError Unit
  | .respond _ => Except RespondError Unit
  | .setLocationPath _ => Unit
  | .setLocationQuery _ => Unit
  | .setMaxAge _ => Unit
  | .setETag _ => Unit
  | .exchange => Exchange
  | .shaping => Shaping
  | .walk => List TreeEntry
  | .pathOf _ => Option String
  | .findPath _ => Option ResourceId
  | .remove _ => Bool
  | .setAttributes _ _ => Except TreeError Unit
  | .setObservable _ _ => Except TreeError Unit
  | .observers => Observers
  | .register _ _ => UInt32
  | .cancel _ _ => Bool
  | .changed _ => UInt32 × List Relation
  | .forget _ => Unit
  | .redeliver => Option (Addressed Response)
  | .forward _ _ => Except ForwardError Response
  | .report _ _ => Unit
  | .note _ => Unit

end Coap
