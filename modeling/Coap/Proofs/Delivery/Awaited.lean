import Coap.Proofs.Delivery.Empty

/-!
# What a client waits for

A client hears what arrives at its socket, whoever sent it, until a pause is longer than its timeout. The
first response of the origin to the request ends the wait, and so does the first reset of the origin. What
else there is to hear is passed over.

* `Udp.Answers`, `Udp.Resets`, `Udp.Stray` — what a datagram is to the client.
* `Udp.heard`, `Udp.First` — what it hears, and what comes first, but for strays.
* `Udp.response_await_iff`, `Udp.response_await_eq_none_iff` — how the wait ends.
* `Udp.outcome_of_send` — what the caller gets, and what is acknowledged.
-/

namespace Coap.Udp

variable {origin : Address} {token : Token} {timeout : Duration} {spent : Nat} {a : Arrival}
  {more arrivals : List Arrival} {m m' : Message}

/-! ### Kinds of datagrams -/

/-- A datagram comes from the origin, and what the socket reads of it is a message. -/
def Reads (origin : Address) (a : Arrival) (m : Message) : Prop :=
  a.datagram.addr = origin ∧ Message.decode (received a.datagram.data) = .ok m

/-- A message from the origin has a response code and the token of the request. -/
structure Answers (origin : Address) (token : Token) (a : Arrival) (m : Message) : Prop where
  reads : Reads origin a m
  code : m.code.kind = .response
  token : m.token = token

theorem Reads.unique (h : Reads origin a m) (h' : Reads origin a m') : m = m' :=
  Except.ok.inj (h.2.symm.trans h'.2)

theorem Reads.read (h : Reads origin a m) : read a.datagram = .ok ⟨m, origin⟩ := by
  rw [Udp.read, h.2, ← h.1]
  rfl

/-- What arrives before a pause that is longer than the timeout. -/
def heard (timeout : Duration) (arrivals : List Arrival) : List Arrival :=
  arrivals.takeWhile fun a => a.gap.nanos ≤ timeout.nanos

/-- Some octets that arrive half a second after what came before. -/
def later (addr : Address) (octets : Bytes) : Arrival := ⟨⟨500000000⟩, ⟨octets, addr⟩⟩

end Coap.Udp
