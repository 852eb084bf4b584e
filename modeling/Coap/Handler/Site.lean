import Coap.Handler.Program

/-!
# What handlers act on

* `Site` — everything but the exchange: the resources, the observe relations, the clock, and a journal
  of what happened.
* `Event` — an entry of the journal: messages sent, requests to origins, reports and notes.
-/

namespace Coap

/-- Something that happened while messages were handled. -/
inductive Event (ν : Type) where
  /-- A resource was found for a request, or none. -/
  | dispatched (request : Addressed Message) (resource : Option ResourceId)
  /-- A message was sent before the final answer. -/
  | sent (m : Addressed Message)
  /-- A request went to an origin. -/
  | hop (h : Hop)
  /-- Something was reported to people. -/
  | report (severity : Severity) (text : String)
  /-- A handler left a note. -/
  | note (n : ν)

/-- The line in which people read a report. -/
def Event.line? {ν : Type} : Event ν → Option String
  | .report severity text => some s!"{severity.text} {text}"
  | _ => none

/-- What handlers act on. -/
structure Site (ν : Type) where
  /-- The resources. -/
  tree : Tree (Resource ν)
  /-- The observe relations. -/
  observers : Observers
  /-- The time. -/
  now : Instant
  /-- What is drawn at random, now and from now on. -/
  nonces : Nat → Nonce
  /-- What happened, oldest first. -/
  events : List (Event ν)

namespace Site

variable {ν : Type}

/-- Note that something happened. -/
def record (s : Site ν) (e : Event ν) : Site ν := { s with events := s.events ++ [e] }

/-- Let time pass. -/
def wait (s : Site ν) (d : Duration) : Site ν := { s with now := s.now + d.nanos }

/-- What a duplicate gets: what was deposited first in the exchange of the request it repeats. Where
nothing was, it waits some time in vain. -/
def replay (s : Site ν) (e : Exchange) (wait : Duration) : Site ν × Option (Addressed Response) :=
  match e.first? with
  | some first => (s, some first)
  | none =>
    let text := s!"original of duplicate {e.key.text} didn't respond in time"
    ((s.wait wait).record (.report .warning text), none)

/-- What is drawn at random, and the site on which it was drawn. -/
def draw (s : Site ν) : Nonce × Site ν := (s.nonces 0, { s with nonces := fun i => s.nonces (i + 1) })

end Site

end Coap
