import Coap.Server.Basic

/-!
# Endpoints of a server

* `Server.addEndpoint`, `Server.removeEndpoint`, `Server.setDeliverer` — which endpoints a server
  serves at, all of which hand their messages to its deliverer.
* `Server.start`, `Server.stop` — start and stop the deduplicator and every endpoint. A start succeeds
  if any endpoint starts; the failures of others are reported.
-/

namespace Coap.Server

variable {ν : Type}

/-- Why a server did not start. -/
inductive StartError where
  /-- Every endpoint failed. -/
  | noEndpointStarted (failed : List (Address × EndpointError))
deriving DecidableEq, Repr

/-- What went wrong, for people. -/
def StartError.message : StartError → String
  | .noEndpointStarted failed => s!"no endpoint could be started ({failed.length} failed)"

/-- Put an endpoint beside the server, which does not serve at it yet. -/
def place (s : Server ν) (e : Endpoint) : Server ν × Nat :=
  ({ s with endpoints := s.endpoints ++ [e] }, s.endpoints.length)

/-- Serve at an endpoint beside the server. -/
def attach (s : Server ν) (i : Nat) : Server ν :=
  { s with
    endpoints := s.endpoints.modify i (·.setDeliverer s.deliverer)
    listed := s.listed ++ [i] }

/-- Serve at a further endpoint. -/
def addEndpoint (s : Server ν) (e : Endpoint) : Server ν × Nat :=
  let (s, i) := s.place e
  (s.attach i, i)

/-- The endpoints that the server serves at. -/
def servedAt (s : Server ν) : List Endpoint := s.listed.filterMap (s.endpoints[·]?)

/-- Serve no more at the first endpoint with a given address; the endpoint itself goes on. -/
def removeEndpoint (s : Server ν) (a : Address) : Server ν × Option Address :=
  let here (i : Nat) : Bool := (s.endpoints[i]?.map (·.localAddress)) = some a
  if s.listed.any here then ({ s with listed := s.listed.eraseP here }, some a) else (s, none)

/-- Hand messages to another deliverer. -/
def setDeliverer (s : Server ν) (d : Deliverer) : Server ν :=
  { s with
    deliverer := d
    endpoints := s.listed.foldl (fun es i => es.modify i (·.setDeliverer d)) s.endpoints }

/-- Start the endpoint at a place. -/
def startEndpoint (s : Server ν) (i : Nat) : Server ν × Option (Address × Except EndpointError Unit) :=
  match s.endpoints[i]? with
  | none => (s, none)
  | some e =>
    let (e, network, result) := e.start s.network
    ({ s with endpoints := s.endpoints.set i e, network }, some (e.localAddress, result))

/-- Stop the endpoint at a place. -/
def stopEndpoint (s : Server ν) (i : Nat) : Server ν × Option (Address × Except EndpointError Unit) :=
  match s.endpoints[i]? with
  | none => (s, none)
  | some e =>
    let (e, network, result) := e.stop s.network
    ({ s with endpoints := s.endpoints.set i e, network }, some (e.localAddress, result))

/-- The endpoint of a server that was given none: a socket at any host and the port it was told. -/
def defaultEndpoint (s : Server ν) (nextId : UInt16) : Endpoint :=
  .udp ⟨.v4 0, s.config.defaultPort⟩ nextId

/-- Serve at the default endpoint if there is no other. -/
def withEndpoint (s : Server ν) (nextId : UInt16) : Server ν :=
  if s.listed.isEmpty then (s.addEndpoint (s.defaultEndpoint nextId)).1 else s

/-- Start endpoints one after the other; the failures are returned. -/
def startAll (s : Server ν) : List Nat → Server ν × List (Address × EndpointError)
  | [] => (s, [])
  | i :: more =>
    match s.startEndpoint i with
    | (s, some (a, .error e)) =>
      let s := s.report .warning s!"failed to start endpoint {a.text}: {e.message}"
      let (s, failed) := s.startAll more
      (s, (a, e) :: failed)
    | (s, _) => s.startAll more

/-- Stop endpoints one after the other. -/
def stopAll (s : Server ν) : List Nat → Server ν
  | [] => s
  | i :: more =>
    match s.stopEndpoint i with
    | (s, some (a, .error e)) =>
      (s.report .warning s!"failed to stop endpoint {a.text}: {e.message}").stopAll more
    | (s, _) => s.stopAll more

/-- Change the deduplicator along with the server. -/
def driveDedup (s : Server ν) (f : Deduplicator Exchange → Deduplicator Exchange) : Server ν :=
  if s.drivesDedup then { s with dedup := f s.dedup } else s

/-- Start the deduplicator and every endpoint. If no endpoint starts, the deduplicator is stopped
again. -/
def start (s : Server ν) : Server ν × Except StartError Unit :=
  let (nonce, site) := s.site.draw
  let s := { s with site }.withEndpoint nonce.id
  let s := s.driveDedup (·.start)
  let count := s.listed.length
  let (s, failed) := s.startAll s.listed
  if failed.length = count then (s.driveDedup (·.stop), .error (.noEndpointStarted failed))
  else (s, .ok ())

/-- Stop every endpoint and the deduplicator. -/
def stop (s : Server ν) : Server ν := (s.stopAll s.listed).driveDedup (·.stop)

end Coap.Server
