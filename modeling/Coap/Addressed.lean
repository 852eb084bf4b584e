import Coap.Address

/-!
# Addressed data

What came from a peer, or goes to one, and the security session it belongs to.
-/

namespace Coap

/-- Data with the peer it came from or goes to. -/
structure Addressed (α : Type u) where
  /-- The data. -/
  data : α
  /-- The peer. -/
  addr : Address
deriving DecidableEq

namespace Addressed

/-- Change the data and keep the peer. -/
def map {α : Type u} {β : Type v} (f : α → β) (a : Addressed α) : Addressed β := ⟨f a.data, a.addr⟩

/-- Put data and peer together. -/
def fold {α : Type u} {β : Type v} (f : α → Address → β) (a : Addressed α) : β := f a.data a.addr

@[simp] theorem addr_map {α : Type u} {β : Type v} (f : α → β) (a : Addressed α) :
    (a.map f).addr = a.addr := rfl

end Addressed

/-- The security session a message arrived in. Nothing here looks into it. -/
structure Session where
  /-- Number given by the transport. -/
  id : UInt64
  /-- Name of the peer, if it is known. -/
  peer : Option String
deriving DecidableEq, Repr

end Coap
