import Coap.Handler.Site

/-!
# Handling a request

`Program.run` lets a handler's program act on a site and on the exchange that it handles.

* `Handling.accept`, `reject`, `respondWith` — the three ways to deposit something in the exchange. Each
  answer is fitted to the request: after an interim acknowledgement it is a confirmable message of its
  own, otherwise it acknowledges a confirmable request and follows a non-confirmable one.
* `Handling.perform` — a call and its result.
-/

namespace Coap

/-- What a request delivered once more from inside its handler leads to. -/
inductive Redelivery where
  /-- It counts as a duplicate, which waits some time for what was deposited first. -/
  | duplicate (wait : Duration)
  /-- It is answered in a fixed way. -/
  | answered (answer : Addressed Message → Option (Addressed Response))

/-- A request being handled. -/
structure Handling (ν : Type) where
  /-- What the handler acts on. -/
  site : Site ν
  /-- The exchange of the request. -/
  exchange : Exchange
  /-- What was stated about the response. -/
  shaping : Shaping
  /-- What happens if the request is delivered once more. -/
  redelivery : Redelivery

namespace Handling

variable {ν : Type}

/-- Note that something happened. -/
def record (h : Handling ν) (e : Event ν) : Handling ν := { h with site := h.site.record e }

/-- Report something to people. -/
def report (h : Handling ν) (severity : Severity) (text : String) : Handling ν :=
  h.record (.report severity text)

/-- The request. -/
def request (h : Handling ν) : Message := h.exchange.request.data

/-! ## Deposits -/

/-- The acknowledgement that announces a separate response; only a confirmable request gets one. -/
def interim? (h : Handling ν) : Option (Addressed Response) :=
  match h.request.type with
  | .con => some (h.exchange.reply (.ofMessage (h.request.ack h.request.id)))
  | _ => none

/-- Announce a separate response, unless something was deposited before. -/
def accept (h : Handling ν) : Handling ν :=
  let interim := h.interim?
  match h.exchange.accept h.site.now interim with
  | (exchange, true) =>
    let h := { h with exchange }
    match interim with
    | some ack => h.record (.sent (ack.map (·.message)))
    | none => h
  | (_, false) => h

/-- Reject the request. -/
def reject (h : Handling ν) : Handling ν × Except RespondError Unit :=
  let reset := h.exchange.reply (.ofMessage h.request.reset)
  match h.exchange.complete h.site.now reset true with
  | (exchange, true) => ({ h with exchange }, .ok ())
  | (_, false) =>
    (h.report .error "rejecting an exchange that was already responded to", .error .alreadyResponded)

/-- An answer with the type, id and token that fit the request. -/
def fitted (h : Handling ν) (m : Message) : Message :=
  let m := { m with token := h.request.token }
  match h.exchange.state, h.request.type with
  | .accepted, .con => { m with type := .con, id := 0 }
  | _, .con => { m with type := .ack, id := h.request.id }
  | _, _ => { m with type := .non, id := 0 }

/-- Answer the request. The response's code, payload and options are kept, but for Observe, which is
settled by the relations. -/
def respondWith (h : Handling ν) (r : Response) : Handling ν × Except RespondError Unit :=
  let code := r.message.code
  if code.kind ≠ .response then
    (h.report .error s!"refusing to respond with non-response code {code.text}",
      .error (.notAResponse code))
  else if h.exchange.isComplete then
    (h.report .error s!"handler responded more than once to {h.request.summary}",
      .error .alreadyResponded)
  else
    let shaped := h.shaping.apply (h.fitted r.message)
    let (observers, exchange, message) :=
      h.site.observers.settle h.site.tree h.exchange h.site.now shaped
    let final := exchange.reply { r with message }
    let exchange := (exchange.complete h.site.now final false).1
    ({ h with site := { h.site with observers }, exchange }, .ok ())

/-! ## Redelivery and forwarding -/

/-- What a duplicate of the request gets: what was deposited first. Nothing else is deposited while the
handler waits for it. -/
def redeliver (h : Handling ν) : Handling ν × Option (Addressed Response) :=
  match h.redelivery with
  | .answered answer => (h, answer h.exchange.request)
  | .duplicate wait =>
    let (site, first) := h.site.replay h.exchange wait
    ({ h with site }, first)

/-- Have a request carried on to its origin. -/
def forward (h : Handling ν) (f : Forwarder) (request : Addressed Message) :
    Handling ν × Except ForwardError Response :=
  let (nonce, site) := h.site.draw
  let forwarding := f.forward site.now nonce request
  let site := { site with events := site.events ++ forwarding.hops.map Event.hop }
  ({ h with site := site.wait forwarding.elapsed }, forwarding.result)

/-! ## Calls -/

/-- Carry out a call. -/
def perform (h : Handling ν) (c : Call ν) : Handling ν × c.Result :=
  let site := h.site
  match c with
  | .accept => (h.accept, ())
  | .reject => h.reject
  | .respond r => h.respondWith r
  | .setLocationPath path =>
    ({ h with shaping := { h.shaping with locationPath := some path } }, ())
  | .setLocationQuery query =>
    ({ h with shaping := { h.shaping with locationQuery := some query } }, ())
  | .setMaxAge seconds => ({ h with shaping := { h.shaping with maxAge := seconds } }, ())
  | .setETag tag => ({ h with shaping := { h.shaping with etag := some tag } }, ())
  | .exchange => (h, h.exchange)
  | .shaping => (h, h.shaping)
  | .walk => (h, site.tree.walk)
  | .pathOf id => (h, site.tree.pathOf id)
  | .findPath path => (h, site.tree.findPath path)
  | .remove id =>
    let (tree, removed) := site.tree.remove id
    ({ h with site := { site with tree } }, removed)
  | .setAttributes id attributes =>
    let (tree, result) := site.tree.setAttributes id attributes
    ({ h with site := { site with tree } }, result)
  | .setObservable id observable =>
    let (tree, result) := site.tree.setObservable id observable
    ({ h with site := { site with tree } }, result)
  | .observers => (h, site.observers)
  | .register id relation =>
    let (observers, sequence) := site.observers.register id relation
    ({ h with site := { site with observers } }, sequence)
  | .cancel id key =>
    let (observers, existed) := site.observers.cancel id key
    ({ h with site := { site with observers } }, existed)
  | .changed id =>
    let (observers, result) := site.observers.changed id
    ({ h with site := { site with observers } }, result)
  | .forget id => ({ h with site := { site with observers := site.observers.forget id } }, ())
  | .redeliver => h.redeliver
  | .forward f request => h.forward f request
  | .report severity text => (h.report severity text, ())
  | .note n => (h.record (.note n), ())

/-- Add a resource below another. -/
def add (h : Handling ν) (parent : ResourceId) (profile : Profile)
    (handler : Addressed Message → Program ν) : Handling ν × Except TreeError ResourceId :=
  let (tree, result) := h.site.tree.mountBelow parent ⟨profile, handler⟩
  ({ h with site := { h.site with tree } }, result)

end Handling

/-- Let a handler's program act. -/
def Program.run {ν : Type} : Program ν → Handling ν → Handling ν
  | .done, h => h
  | .call c next, h =>
    let (h, result) := h.perform c
    (next result).run h
  | .add parent profile handler next, h =>
    let (h, result) := h.add parent profile handler
    (next result).run h

end Coap
