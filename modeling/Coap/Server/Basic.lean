import Coap.Dedup.Basic
import Coap.Handler.Dispatch
import Coap.Resource.Standard
import Coap.Server.Endpoint

/-!
# Servers

A server serves a tree of resources at any number of endpoints. It retains the exchanges of recent
requests, by which it knows duplicates.

* `Server.new?` — a server for a tree, to which the list of resources is added if it is not there.
* `Server.remove` — remove a resource with its observe relations.
-/

namespace Coap

/-- A server. -/
structure Server (ν : Type) where
  /-- What it was told. -/
  config : Config
  /-- The resources, the observe relations and the journal. -/
  site : Site ν
  /-- The retained exchanges. -/
  dedup : Deduplicator Exchange
  /-- Does starting and stopping the server start and stop the deduplicator? -/
  drivesDedup : Bool
  /-- What becomes of messages that arrive. -/
  deliverer : Deliverer
  /-- All endpoints around. -/
  endpoints : List Endpoint
  /-- The endpoints that it serves at, in the order in which they were added. -/
  listed : List Nat
  /-- Where the sockets of endpoints are bound. -/
  network : Udp.Network

namespace Tree

variable {ν : Type}

/-- The resource that holds the list of resources, added if it is not there. -/
def withCoreParent (t : Tree (Resource ν)) : Tree (Resource ν) × Except TreeError ResourceId :=
  match t.child? t.root ".well-known" with
  | some id => (t, .ok id)
  | none => t.mount (.container ".well-known" false)

/-- The tree with the list of resources in its place. If it cannot be added, the cause is returned. -/
def withCore (t : Tree (Resource ν)) : Tree (Resource ν) × Except TreeError Unit :=
  if (t.findSegments Resource.corePath).isSome then (t, .ok ())
  else
    match t.withCoreParent with
    | (t, .error e) => (t, .error e)
    | (t, .ok parent) =>
      match t.mountBelow parent .core with
      | (t, .ok _) => (t, .ok ())
      | (t, .error e) => (t, .error e)

end Tree

namespace Server

variable {ν : Type}

/-- A server for a tree; there is none if its exchanges would live too long. -/
def new? (config : Config) (tree : Tree (Resource ν)) (nonces : Nat → Nonce) (network : Udp.Network) :
    Option (Server ν) :=
  (Deduplicator.ofConfig? config).map fun dedup =>
    let (tree, result) := tree.withCore
    let events : List (Event ν) := match result with
      | .ok _ => []
      | .error e => [.report .warning s!"couldn't add discovery resource: {e.message}"]
    { config, dedup, network, drivesDedup := true, deliverer := .dispatcher
      site := { tree, observers := .none, now := 0, nonces, events }
      endpoints := [], listed := [] }

/-- Change the tree, with a result. -/
def updateTree {α : Type} (s : Server ν) (f : Tree (Resource ν) → Tree (Resource ν) × α) :
    Server ν × α :=
  let (tree, result) := f s.site.tree
  ({ s with site := { s.site with tree } }, result)

/-- Report something to people. -/
def report (s : Server ν) (severity : Severity) (text : String) : Server ν :=
  { s with site := s.site.record (.report severity text) }

/-- Remove a resource and everything below it, and forget its observe relations. -/
def remove (s : Server ν) (id : ResourceId) : Server ν × Bool :=
  let (tree, removed) := s.site.tree.remove id
  ({ s with site := { s.site with tree, observers := s.site.observers.forget id } }, removed)

/-- Note a change of a resource: the sequence number, and the relations to notify. -/
def changed (s : Server ν) (id : ResourceId) : Server ν × UInt32 × List Relation :=
  let (observers, result) := s.site.observers.changed id
  ({ s with site := { s.site with observers } }, result)

end Server

end Coap
