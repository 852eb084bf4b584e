import Coap.Duration
import Coap.Forward.Http
import Coap.Forward.Origin
import Coap.Forward.Target
import Coap.Request

/-!
# Forwarders

A forwarder carries a request on to the origin that its target names, over CoAP or over HTTP, and brings
back what the origin answers in time. The clients that talk to origins are functions: they say what
comes back, and when. A forwarder asks its client in any monad, so that it is left to the monad what else
comes of asking; here it is a note of each request.

* `Forwarder.forwardCoap`, `Forwarder.forwardHttp` — the second hop over either protocol.
* `Forwarder.forward` — how the second hop ended, and all that the client was asked.
-/

namespace Coap

/-! ## Clients -/

/-- What comes back for a CoAP request that was sent. -/
inductive CoapArrival where
  /-- A response, some time after the request was sent. -/
  | response (after : Duration) (r : Response)
  /-- The exchange ends without a response. -/
  | closed (after : Duration)
  /-- Nothing. -/
  | silence

/-- Sends CoAP requests to origins; sending may fail. -/
abbrev CoapClient := Addressed Message → Except String CoapArrival

/-- Why an HTTP request got no response. -/
inductive HttpError where
  /-- The time was up. -/
  | timeout
  /-- The origin could not be reached. -/
  | connect (cause : String)
  /-- Anything else. -/
  | other (cause : String)
deriving DecidableEq, Repr

/-- What went wrong, for people. -/
def HttpError.message : HttpError → String
  | .timeout => "timed out"
  | .connect cause => s!"connection failed: {cause}"
  | .other cause => cause

/-- What comes back for an HTTP request. -/
inductive HttpArrival where
  /-- A response or an error, some time after the request was sent. -/
  | result (after : Duration) (r : Except HttpError Http.Response)
  /-- The client ends without a result. -/
  | closed (after : Duration)
  /-- Nothing. -/
  | silence

/-- Sends HTTP requests, and is told how much time there is. -/
abbrev HttpClient := Http.Request → Duration → HttpArrival

/-- Is anything heard in time? Of a request that cannot be sent this is heard at once. -/
def CoapClient.heard (timeout : Duration) : Except String CoapArrival → Bool
  | .error _ => true
  | .ok (.response after _) | .ok (.closed after) => after.nanos ≤ timeout.nanos
  | .ok .silence => false

/-- Is anything heard in time? -/
def HttpClient.heard (timeout : Duration) : HttpArrival → Bool
  | .result after _ | .closed after => after.nanos ≤ timeout.nanos
  | .silence => false

/-- A request that a client was asked, and whether anything was heard in time. -/
inductive Hop where
  /-- Over CoAP. -/
  | coap (request : Addressed Message) (inTime : Bool)
  /-- Over HTTP. -/
  | http (request : Http.Request) (inTime : Bool)
deriving DecidableEq

/-- Ask a client, and note what it is asked. -/
def CoapClient.noted (client : CoapClient) (timeout : Duration) (request : Addressed Message) :
    StateM (List Hop) (Except String CoapArrival) := do
  let said := client request
  modify (· ++ [.coap request (CoapClient.heard timeout said)])
  return said

/-- Ask a client, and note what it is asked. -/
def HttpClient.noted (client : HttpClient) (request : Http.Request) (timeout : Duration) :
    StateM (List Hop) HttpArrival := do
  let said := client request timeout
  modify (· ++ [.http request (HttpClient.heard timeout said)])
  return said

/-! ## Forwarders -/

/-- Carries requests on to origins. -/
inductive Forwarder where
  /-- Over CoAP, where `resolve` finds the server of a URL. -/
  | coap (resolve : Url → Option Address) (client : CoapClient) (timeout : Duration)
  /-- Over HTTP. -/
  | http (client : HttpClient) (timeout : Duration)
  /-- In some other way. -/
  | custom (answer : Addressed Message → Except ForwardError Response)

/-- What is drawn at random for a request to an origin. -/
structure Nonce where
  /-- The message id. -/
  id : UInt16
  /-- The token. -/
  token : Token
deriving DecidableEq, Inhabited

/-- How forwarding a request ended. -/
structure Forwarding where
  /-- The response for the client, or why there is none. -/
  result : Except ForwardError Response
  /-- The time it took. -/
  elapsed : Duration

/-- How forwarding a request ended, and what clients were asked for it. -/
structure Forwarded extends Forwarding where
  /-- The requests to origins, in order. -/
  hops : List Hop

namespace Forwarding

/-- A request that could not be sent on. -/
def refused (e : ForwardError) : Forwarding := ⟨.error e, ⟨0⟩⟩

/-- A response that was fetched at a given time. -/
def fetched (r : Except ForwardError Response) (start : Instant) (after : Duration) :
    Except ForwardError Response :=
  r.map fun response => { response with completed := some (start + after.nanos) }

end Forwarding

/-- Forward with a client whose requests are noted. -/
def Forwarded.ofNotes (run : StateM (List Hop) Forwarding) : Forwarded :=
  let (forwarding, hops) := run.run []
  { forwarding with hops }

/-- Port of origins that name none. -/
def coapPort : UInt16 := 5683

/-- Where the server of a URL is, if its host is an address. Names are not looked up. -/
def Url.address? (u : Url) : Option Address :=
  let port := (u.port?.or (Url.impliedPort? u.scheme)).getD coapPort
  match u.host? with
  | some (.name s) => (Ip.ofText4? s).map fun ip => ⟨ip, port⟩
  | some (.ip4 v) => some ⟨.v4 v, port⟩
  | some (.ip6 v) => some ⟨.v6 v 0, port⟩
  | none => none

namespace Forwarder

variable {μ : Type → Type} [Monad μ]

/-- What a CoAP client's word for a request amounts to, and the time until then. -/
def endCoap (timeout : Duration) (start : Instant) (said : Except String CoapArrival) : Forwarding :=
  let late : Forwarding := ⟨.error .gatewayTimeout, timeout⟩
  match said with
  | .error cause => ⟨.error (.internalError cause), ⟨0⟩⟩
  | .ok .silence => late
  | .ok (.closed after) =>
    if after.nanos ≤ timeout.nanos then
      ⟨.error (.internalError "origin exchange failed"), after⟩
    else late
  | .ok (.response after r) =>
    if after.nanos ≤ timeout.nanos then
      let relayed := r.fromOrigin.mapError fun e => .badGateway e.message
      ⟨Forwarding.fetched relayed start after, after⟩
    else late

/-- Forward over CoAP, where `resolve` finds the server of a URL and `ask` sends a request. -/
def forwardCoap (resolve : Url → Option Address)
    (ask : Addressed Message → μ (Except String CoapArrival)) (timeout : Duration) (start : Instant)
    (nonce : Nonce) (m : Message) : μ Forwarding :=
  match m.proxyTarget with
  | .error e => return .refused e
  | .ok target =>
    if target.scheme ≠ "coap" then
      return .refused (.badOption s!"can't forward to {target.scheme} over CoAP")
    else
      match resolve target with
      | none => return .refused (.badOption s!"can't resolve {target.text}")
      | some origin => do
        let said ← ask ⟨m.toOrigin target nonce.id nonce.token, origin⟩
        return endCoap timeout start said

/-- What an HTTP client's word for a request amounts to, and the time until then. -/
def endHttp (timeout : Duration) (start : Instant) (method : Method) (said : HttpArrival) :
    Forwarding :=
  let late : Forwarding := ⟨.error .gatewayTimeout, timeout⟩
  match said with
  | .silence => late
  | .closed after =>
    if after.nanos ≤ timeout.nanos then ⟨.error (.badGateway "http client gave up"), after⟩
    else late
  | .result after r =>
    if after.nanos ≤ timeout.nanos then
      let response := match r with
        | .error .timeout => .error .gatewayTimeout
        | .error e => .error (.badGateway e.message)
        | .ok response =>
          (Response.ofHttp response method).mapError fun e => .badGateway e.message
      ⟨Forwarding.fetched response start after, after⟩
    else late

/-- Forward over HTTP, where `ask` sends a request. A request that names its target as a whole has no
path of its own. -/
def forwardHttp (ask : Http.Request → Duration → μ HttpArrival) (timeout : Duration) (start : Instant)
    (m : Message) : μ Forwarding :=
  let bare := if m.has .proxyUri then m.remove .uriPath else m
  match bare.proxyTarget with
  | .error e => return .refused e
  | .ok target =>
    if target.scheme ≠ "http" ∧ target.scheme ≠ "https" then
      return .refused (.badOption s!"can't forward to {target.scheme} over HTTP")
    else
      match bare.toHttp target with
      | .error e => return .refused (.badGateway e.message)
      | .ok request => do
        let said ← ask request timeout
        return endHttp timeout start m.method said

/-- Carry a request on to its origin, beginning at a given time. -/
def forward (f : Forwarder) (start : Instant) (nonce : Nonce) (request : Addressed Message) :
    Forwarded :=
  match f with
  | .coap resolve client timeout =>
    .ofNotes (forwardCoap resolve (client.noted timeout) timeout start nonce request.data)
  | .http client timeout => .ofNotes (forwardHttp client.noted timeout start request.data)
  | .custom answer => ⟨⟨answer request, ⟨0⟩⟩, []⟩

end Forwarder

end Coap
