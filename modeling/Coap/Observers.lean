import Coap.Exchange
import Coap.Tree.Basic

/-!
# Observers

Who wants to be told of changes, for every resource: the relations by peer and token, and the number
of the last notification. Numbers have 24 bits and wrap.

* `Observers.register`, `cancel`, `forget`, `changed` — what can happen to the relations of a resource.
* `Observers.settle` — what a response does to the relation of its request, and to its own Observe
  option.
-/

namespace Coap

/-- A client's wish to be told of changes of a resource. -/
structure Relation where
  /-- The client. -/
  peer : Address
  /-- The token that notifications carry. -/
  token : Token
  /-- The registering request, and when it was accepted. -/
  request : Stamped Message
deriving DecidableEq

/-- What tells the relations of a resource apart. -/
def Relation.key (r : Relation) : Key := .token r.peer r.token

/-- The relations of a resource. -/
structure Observed where
  /-- Number of the last notification. -/
  sequence : UInt32
  /-- The relations by their keys. -/
  relations : OrderedMap Key Relation
deriving DecidableEq

/-- The relations of all resources. -/
structure Observers where
  /-- What is known of a resource, from the first time it is registered with or changed. -/
  resources : OrderedMap ResourceId Observed
deriving DecidableEq

namespace Observers

/-- The largest sequence number. -/
def sequenceMask : UInt32 := 0x00FFFFFF

/-- Nothing is observed. -/
def none : Observers := ⟨.empty⟩

/-- What is known of a resource; before anything is known, there are no relations and the sequence
number is 0. -/
def observed (o : Observers) (r : ResourceId) : Observed :=
  (o.resources.get? r).getD ⟨0, .empty⟩

/-- The relations of a resource. -/
def relations (o : Observers) (r : ResourceId) : List Relation := (o.observed r).relations.values

/-- Number of the last notification about a resource. -/
def sequence (o : Observers) (r : ResourceId) : UInt32 := (o.observed r).sequence

/-- Add a relation, or refresh it. The sequence number stays and is returned. -/
def register (o : Observers) (r : ResourceId) (relation : Relation) : Observers × UInt32 :=
  let known := o.observed r
  let known := { known with relations := known.relations.insert relation.key relation }
  (⟨o.resources.insert r known⟩, known.sequence)

/-- Remove a relation, if it is there. -/
def cancel (o : Observers) (r : ResourceId) (key : Key) : Observers × Bool :=
  (⟨o.resources.modify r fun known => { known with relations := known.relations.erase key }⟩,
    (o.observed r).relations.contains key)

/-- Note a change: the next sequence number, and the relations to notify. -/
def changed (o : Observers) (r : ResourceId) : Observers × UInt32 × List Relation :=
  let known := o.observed r
  let known := { known with sequence := (known.sequence + 1) &&& sequenceMask }
  (⟨o.resources.insert r known⟩, known.sequence, known.relations.values)

/-- Forget everything about a resource. -/
def forget (o : Observers) (r : ResourceId) : Observers := ⟨o.resources.erase r⟩

/-- Number of relations of all resources. -/
def size (o : Observers) : Nat := o.resources.values.foldl (fun n known => n + known.relations.size) 0

/-- What a response does to the relation of its request. A successful response to a request to observe
an observable resource establishes the relation and carries the sequence number; a request to end the
observation ends it, and so does an error. No other response carries the Observe option. -/
def settle {η : Type u} (o : Observers) (tree : Tree η) (e : Exchange) (now : Instant)
    (response : Message) : Observers × Exchange × Message :=
  match e.resource with
  | .none => (o, e, response.remove .observe)
  | some resource =>
    let key := Key.ofToken e.request
    match e.request.data.observeAction? with
    | some .register =>
      if response.code.isSuccess && tree.isObservable resource then
        let relation : Relation := ⟨e.peer, e.request.data.token, ⟨e.request.data, now⟩⟩
        let (o, sequence) := o.register resource relation
        (o, { e with marker := .established }, response.setObserve sequence)
      else settleOther o e resource key response
    | some .deregister =>
      ((o.cancel resource key).1, { e with marker := .canceled }, response.remove .observe)
    | .none => settleOther o e resource key response
where
  /-- An error ends the relation; no other response does anything to it. -/
  settleOther (o : Observers) (e : Exchange) (resource : ResourceId) (key : Key)
      (response : Message) : Observers × Exchange × Message :=
    if response.code.isError then
      let (o, existed) := o.cancel resource key
      (o, if existed then { e with marker := .canceled } else e, response.remove .observe)
    else (o, e, response.remove .observe)

end Observers

end Coap
