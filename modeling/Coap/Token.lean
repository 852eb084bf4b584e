import Coap.Bytes

/-!
# Tokens

A token ties a response to its request. It has at most eight octets.
-/

namespace Coap

/-- At most eight octets that tie a response to its request. -/
structure Token where
  /-- The octets. -/
  bytes : Bytes
  /-- A token is short. -/
  length_le : bytes.length ≤ 8
deriving DecidableEq, Repr

namespace Token

/-- The token without octets. -/
def empty : Token := ⟨[], Nat.zero_le 8⟩

instance : Inhabited Token := ⟨empty⟩

/-- The token with the given octets, if there are not too many. -/
def ofBytes? (bytes : Bytes) : Option Token :=
  if h : bytes.length ≤ 8 then some ⟨bytes, h⟩ else none

/-- Has the token no octets? -/
def isEmpty (t : Token) : Bool := t.bytes.isEmpty

@[ext] theorem ext {s t : Token} (h : s.bytes = t.bytes) : s = t := by
  cases s; cases t; cases h; rfl

end Token

end Coap
