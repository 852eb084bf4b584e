/-!
# Message types

The four roles a message can have on the message layer, and their two-bit wire form.
-/

namespace Coap

/-- The role of a message on the message layer. -/
inductive MessageType where
  /-- Confirmable: asks to be acknowledged or reset. -/
  | con
  /-- Non-confirmable. -/
  | non
  /-- Acknowledges a confirmable message. -/
  | ack
  /-- Says that a message could not be processed. -/
  | rst
deriving DecidableEq, Repr, Inhabited

namespace MessageType

/-- The number that stands for the type on the wire. -/
def toByte : MessageType → UInt8
  | .con => 0
  | .non => 1
  | .ack => 2
  | .rst => 3

/-- The type that a number stands for. -/
def ofByte? (b : UInt8) : Option MessageType :=
  if b = 0 then some .con
  else if b = 1 then some .non
  else if b = 2 then some .ack
  else if b = 3 then some .rst
  else none

/-- Does the type answer another message? -/
def isReply : MessageType → Bool
  | .ack | .rst => true
  | .con | .non => false

/-- The name of the type in messages to people. -/
def text : MessageType → String
  | .con => "Con"
  | .non => "Non"
  | .ack => "Ack"
  | .rst => "Reset"

/-- A number stands for the type whose number it is. -/
@[simp] theorem ofByte?_toByte (t : MessageType) : ofByte? t.toByte = some t := by
  cases t <;> rfl

end MessageType

end Coap
