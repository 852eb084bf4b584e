import Coap.Message.Basic
import Coap.Text.Quoted

/-!
# Messages in one line

The short form of a message for logs: type, code, path, id, token and the size of the payload, as in
`Con 0.01 "a/b" id=42 token=[1, 2] with 0 byte payload`.
-/

namespace Coap

/-- Octets as decimal numbers in brackets. -/
def Bytes.listText (bytes : Bytes) : String :=
  "[" ++ Text.join ", " (bytes.map fun b => toString b.toNat) ++ "]"

/-- The short form of a message for logs. -/
def Message.summary (m : Message) : String :=
  s!"{m.type.text} {m.code.text} {Text.quoted m.pathText} id={m.id.toNat} " ++
    s!"token={m.token.bytes.listText} with {m.payload.length} byte payload"

/-- What is reported of a message that has nowhere to go. -/
def Message.dropText (m : Message) : String := s!"NoOutbox dropping {m.summary}"

end Coap
