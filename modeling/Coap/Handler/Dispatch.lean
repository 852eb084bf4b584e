import Coap.Handler.Handling

/-!
# Dispatch

`Handling.dispatch` finds the resource that a request is for and lets its handler act. A request for
which there is no resource is answered with 4.04, and one that its handler leaves without a final answer
with 5.00.
-/

namespace Coap.Handling

variable {ν : Type}

/-- The handling of a request before its handler acts. -/
def start (site : Site ν) (exchange : Exchange) (redelivery : Redelivery) : Handling ν :=
  { site, exchange, shaping := .standard, redelivery }

/-- The resource a request is for. -/
def target? (h : Handling ν) : Option ResourceId := h.request.path?.bind h.site.tree.findSegments

/-- Give an answer in place of a handler that gave none. -/
def respondCode (h : Handling ν) (code : Code) : Handling ν := (h.respondWith (.ofCode code [])).1

/-- Let a resource handle the request. -/
def runResource (h : Handling ν) (id : ResourceId) (resource : Resource ν) : Handling ν :=
  let h := { h with exchange := { h.exchange with resource := some id } }
  let h := (resource.handler h.exchange.request).run h
  if h.exchange.isComplete then h
  else
    let text := s!"resource {Text.quoted resource.profile.name} returned without responding to " ++
      h.request.summary
    (h.report .error text).respondCode .internalServerError

/-- Find the resource and let its handler act. -/
def dispatch (h : Handling ν) : Handling ν :=
  let target := h.target?
  let h := h.record (.dispatched h.exchange.request target)
  match target.bind fun id => (h.site.tree.handler? id).map fun resource => (id, resource) with
  | some (id, resource) => h.runResource id resource
  | none => h.respondCode .notFound

end Coap.Handling
