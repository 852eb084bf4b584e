import Coap.Addressed
import Coap.Message.Decode
import Coap.Message.Encode

/-!
# Messages in datagrams

* `Udp.received` — what is read of a datagram: no more than its first 1152 octets.
* `Udp.read` — the message that a datagram is taken for.
* `Udp.number` — a message without an id gets the next number of a counter that wraps; messages that
  reply to an id, and messages that have one, keep theirs.
* `Udp.outgoing` — messages on their way out, in order.
-/

namespace Coap.Udp

/-- Number of octets that are read of a datagram. -/
def maxDatagram : Nat := 1152

/-- What is read of a datagram. -/
def received (datagram : Bytes) : Bytes := datagram.take maxDatagram

/-- The message that a datagram is taken for. -/
def read (d : Addressed Bytes) : Except DecodeError (Addressed Message) :=
  (Message.decode (received d.data)).map fun m => ⟨m, d.addr⟩

/-- Does the message lack an id? -/
def needsId (m : Message) : Bool := m.id = 0 && !m.type.isReply

/-- A message with an id, and the counter afterwards. -/
def number (next : UInt16) (m : Message) : UInt16 × Message :=
  if needsId m then (next + 1, { m with id := next }) else (next, m)

/-- Messages with ids, in order, and the counter afterwards. -/
def numberAll (next : UInt16) : List (Addressed Message) → UInt16 × List (Addressed Message)
  | [] => (next, [])
  | m :: more =>
    let (next, first) := number next m.data
    let (next, rest) := numberAll next more
    (next, ⟨first, m.addr⟩ :: rest)

/-- A message on its way out: the datagram for it, or why it cannot be written. -/
structure Outgoing where
  /-- The message with its id, and where it goes. -/
  message : Addressed Message
  /-- The octets of the datagram. -/
  octets : Except EncodeError Bytes

/-- Write a message that has its id. -/
def Outgoing.ofMessage (m : Addressed Message) : Outgoing := ⟨m, m.data.encode⟩

/-- The datagram, if the message can be written. -/
def Outgoing.datagram? (o : Outgoing) : Option (Addressed Bytes) :=
  match o.octets with
  | .ok bytes => some ⟨bytes, o.message.addr⟩
  | .error _ => none

/-- Messages on their way out, in order, and the counter afterwards. -/
def outgoing (next : UInt16) (messages : List (Addressed Message)) : UInt16 × List Outgoing :=
  let (next, numbered) := numberAll next messages
  (next, numbered.map Outgoing.ofMessage)

end Coap.Udp
