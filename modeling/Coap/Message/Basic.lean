import Coap.Code
import Coap.ContentFormat
import Coap.MessageType
import Coap.Options
import Coap.Text.Split
import Coap.Token

/-!
# Messages

A message close to its wire form, with the options by their absolute numbers. The accessors read
the first value of an option that is not repeatable, and all values of one that is.

* `Message.Fits` — the header fields fit their bits, and every option has a value; these are the
  messages that survive the wire unchanged.
* `Message.ack`, `Message.reset` — the two empty replies.
* `Message.observeAction?` — whether a request starts or ends an observation.
-/

namespace Coap

/-- A message. -/
structure Message where
  /-- The role of the message on the message layer. -/
  type : MessageType
  /-- Protocol version; the wire has two bits for it. -/
  version : UInt8
  /-- What is asked or answered. -/
  code : Code
  /-- Ties an acknowledgement to its message, and tells duplicates. -/
  id : UInt16
  /-- Ties a response to its request. -/
  token : Token
  /-- Options by number. -/
  options : Options
  /-- The body. -/
  payload : Bytes
deriving DecidableEq

/-- What the Observe option of a request asks for. -/
inductive ObserveAction where
  /-- Be notified of changes from now on. -/
  | register
  /-- Be no longer notified. -/
  | deregister
deriving DecidableEq, Repr, Inhabited

namespace ObserveAction

/-- The action a number asks for. -/
def ofUInt? (n : UInt32) : Option ObserveAction :=
  if n = 0 then some .register else if n = 1 then some .deregister else none

/-- The number that asks for an action. -/
def toUInt : ObserveAction → UInt32
  | .register => 0
  | .deregister => 1

end ObserveAction

namespace Message

/-- A message of version 1 without options and payload. -/
def new (type : MessageType) (code : Code) (id : UInt16) (token : Token) : Message :=
  { type, version := 1, code, id, token, options := .empty, payload := [] }

instance : Inhabited Message := ⟨new .con .empty 0 .empty⟩

/-- An acknowledgement with a given id. -/
def ack (m : Message) (id : UInt16) : Message := new .ack .empty id m.token

/-- The reset that rejects a message. -/
def reset (m : Message) : Message := new .rst .empty m.id .empty

/-- Has the message the empty code? -/
def isEmpty (m : Message) : Bool := m.code = .empty

/-- The header fields fit their bits, and every option has a value. -/
def Fits (m : Message) : Prop := m.version < 4 ∧ m.code.Fits ∧ m.options.HasValues

instance (m : Message) : Decidable m.Fits := inferInstanceAs (Decidable (_ ∧ _ ∧ _))

/-- What the wire keeps of a message: the version modulo 4, the code its octet stands for, and the
options that have values. -/
def onWire (m : Message) : Message :=
  { m with
    version := m.version % 4
    code := .ofByte m.code.toByte
    options := m.options.dropEmpty }

/-! ## Options -/

/-- The first value of an option as text. -/
def text? (m : Message) (n : OptionNumber) : Option String :=
  (m.options.first? n).bind Text.ofBytes?

/-- The first value of an option as a number. -/
def uint? (m : Message) (n : OptionNumber) : Option UInt32 :=
  (m.options.first? n).bind OptionValue.toUInt?

/-- Is the option present? -/
def has (m : Message) (n : OptionNumber) : Bool := m.options.contains n

/-- Make `value` the only value of an option. -/
def set (m : Message) (n : OptionNumber) (value : Bytes) : Message :=
  { m with options := m.options.set n value }

/-- Make a number the only value of an option. -/
def setUInt (m : Message) (n : OptionNumber) (value : UInt32) : Message :=
  m.set n (OptionValue.ofUInt value)

/-- Append a value to those of an option. -/
def add (m : Message) (n : OptionNumber) (value : Bytes) : Message :=
  { m with options := m.options.add n value }

/-- Drop an option. -/
def remove (m : Message) (n : OptionNumber) : Message :=
  { m with options := m.options.erase n }

/-! ## Path and query -/

/-- The path segments, if all are UTF-8. -/
def path? (m : Message) : Option (List String) :=
  (m.options.valuesOf .uriPath).mapM Text.ofBytes?

/-- The path segments joined by slashes, with U+FFFD for what is not UTF-8. -/
def pathText (m : Message) : String :=
  Text.join "/" ((m.options.valuesOf .uriPath).map Text.ofBytesLossy)

/-- Make the non-empty segments of a path the path of the message. -/
def setPath (m : Message) (path : String) : Message :=
  { m with options := m.options.setSegments .uriPath (Text.pieces '/' path) }

/-- The query arguments that are UTF-8. -/
def query (m : Message) : List String :=
  (m.options.valuesOf .uriQuery).filterMap Text.ofBytes?

/-- Make the non-empty arguments of a query the query of the message. -/
def setQuery (m : Message) (query : String) : Message :=
  { m with options := m.options.setSegments .uriQuery (Text.pieces '&' query) }

/-! ## Formats -/

/-- The format of the payload; a number above 16 bits is cut to them. -/
def contentFormat? (m : Message) : Option ContentFormat :=
  (m.uint? .contentFormat).map fun n => .ofNumber n.toUInt16

/-- State the format of the payload. -/
def setContentFormat (m : Message) (f : ContentFormat) : Message :=
  m.setUInt .contentFormat f.number.toUInt32

/-- The format asked for; a number above 16 bits is cut to them. -/
def accept? (m : Message) : Option ContentFormat :=
  (m.uint? .accept).map fun n => .ofNumber n.toUInt16

/-! ## Observation -/

/-- The value of the Observe option. -/
def observeValue? (m : Message) : Option UInt32 := m.uint? .observe

/-- What the Observe option asks for. -/
def observeAction? (m : Message) : Option ObserveAction := m.observeValue?.bind ObserveAction.ofUInt?

/-- Set the Observe option. -/
def setObserve (m : Message) (n : UInt32) : Message := m.setUInt .observe n

end Message

end Coap
