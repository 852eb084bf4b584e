import Coap.Http.Uri

/-!
# HTTP messages

Requests and responses of HTTP, as far as a gateway looks at them. Names of header fields are in lower
case; the value of a field is text only if it is made of visible ASCII characters, spaces and tabs.
-/

namespace Coap.Http

/-- An HTTP request. -/
structure Request where
  /-- The method. -/
  method : String
  /-- The target. -/
  uri : Uri
  /-- The header fields with their values, by name. -/
  headers : List (String × String)
  /-- The body. -/
  body : Bytes
deriving DecidableEq, Repr

/-- An HTTP response. -/
structure Response where
  /-- The status, from 100 to 999. -/
  status : Nat
  /-- The header fields with their values; the names are in lower case. -/
  headers : List (String × Bytes)
  /-- The body. -/
  body : Bytes
deriving DecidableEq, Repr

/-- Is this a visible ASCII character, a space or a tab? -/
def isVisible (b : UInt8) : Bool := (0x20 ≤ b && b < 0x7F) || b == 0x09

/-- The first value of a header field, if it is text. -/
def Response.text? (r : Response) (name : String) : Option String :=
  match r.headers.find? fun h => h.1 = name with
  | some (_, value) => if value.all isVisible then Text.ofBytes? value else none
  | none => none

end Coap.Http
