/-!
# Octet strings

Datagrams, option values and payloads are lists of octets. `Bytes.toHex` writes them as pairs of
lower-case hexadecimal digits, and `Bytes.ofHex?` reads such pairs.
-/

namespace Coap

/-- A string of octets. -/
abbrev Bytes := List UInt8

namespace Bytes

/-- The lower-case hexadecimal digit for a value below 16. -/
def hexDigit (n : Nat) : Char :=
  if n < 10 then Char.ofNat (0x30 + n) else Char.ofNat (0x61 + (n - 10))

/-- Every octet as two lower-case hexadecimal digits. -/
def toHexChars (bytes : Bytes) : List Char :=
  bytes.flatMap fun b => [hexDigit (b.toNat / 16), hexDigit (b.toNat % 16)]

/-- Every octet as two lower-case hexadecimal digits. -/
def toHex (bytes : Bytes) : String := String.ofList bytes.toHexChars

/-- The value of a hexadecimal digit of either case. -/
def hexValue? (c : Char) : Option Nat :=
  if '0' ≤ c ∧ c ≤ '9' then some (c.toNat - 0x30)
  else if 'a' ≤ c ∧ c ≤ 'f' then some (c.toNat - 0x61 + 10)
  else if 'A' ≤ c ∧ c ≤ 'F' then some (c.toNat - 0x41 + 10)
  else none

/-- The octets that pairs of hexadecimal digits stand for. -/
def ofHexChars? : List Char → Option Bytes
  | [] => some []
  | [_] => none
  | hi :: lo :: more => do
    return ((← hexValue? hi) * 16 + (← hexValue? lo)).toUInt8 :: (← ofHexChars? more)

/-- The octets that pairs of hexadecimal digits stand for. -/
def ofHex? (s : String) : Option Bytes := ofHexChars? s.toList

/-- The number written by octets in network order, the first one most significant. -/
def toNat (bytes : Bytes) : Nat := bytes.foldl (fun n b => n * 256 + b.toNat) 0

end Bytes

end Coap
