import Coap.Text.Utf8

/-!
# Percent-encoding

Characters that would be misread in a part of a URL are written as `%` and two hexadecimal digits for
each octet of their UTF-8 form. Which characters these are depends on the part; beyond ASCII it is all
of them.

* `Percent.encode` — encode the characters of a set.
* `Percent.decode` — read the octets back; a `%` without two digits behind it stands for itself.
-/

namespace Coap.Percent

/-! ## Sets of characters -/

/-- Control characters, which no part of a URL holds. -/
def controls (c : Char) : Bool := c.toNat < 0x20 || c.toNat == 0x7F

/-- What a query must not hold. -/
def query (c : Char) : Bool := controls c || c ∈ [' ', '"', '#', '<', '>']

/-- What a query must not hold in a scheme that the standard knows. -/
def specialQuery (c : Char) : Bool := query c || c == '\''

/-- What a fragment must not hold. -/
def fragment (c : Char) : Bool := controls c || c ∈ [' ', '"', '<', '>', '\x60']

/-- What a path must not hold. -/
def path (c : Char) : Bool := fragment c || c ∈ ['#', '?', '\x7b', '\x7d']

/-- What a user name or a password must not hold. -/
def userinfo (c : Char) : Bool := path c || c ∈ ['/', ':', ';', '=', '@', '[', '\\', ']', '^', '|']

/-! ## Encoding -/

/-- The upper-case hexadecimal digit for a value below 16. -/
def hexDigit (n : Nat) : Char :=
  if n < 10 then Char.ofNat (0x30 + n) else Char.ofNat (0x41 + (n - 10))

/-- An octet behind its `%`. -/
def encodeByte (b : UInt8) : List Char := ['%', hexDigit (b.toNat / 16), hexDigit (b.toNat % 16)]

/-- A character, encoded if it belongs to the set or not to ASCII. -/
def encodeChar (set : Char → Bool) (c : Char) : List Char :=
  if 0x80 ≤ c.toNat || set c then (String.utf8EncodeChar c).flatMap encodeByte else [c]

/-- Characters with those of the set, and those beyond ASCII, encoded. -/
def encode (set : Char → Bool) (cs : List Char) : List Char := cs.flatMap (encodeChar set)

/-! ## Decoding -/

/-- The octets that encoded octets stand for. -/
def decodeBytes : Bytes → Bytes
  | b :: hi :: lo :: rest =>
    match b == 0x25, Bytes.hexValue? (Char.ofNat hi.toNat), Bytes.hexValue? (Char.ofNat lo.toNat) with
    | true, some x, some y => (x * 16 + y).toUInt8 :: decodeBytes rest
    | _, _, _ => b :: decodeBytes (hi :: lo :: rest)
  | tail => tail

/-- The octets that encoded characters stand for. -/
def decode (cs : List Char) : Bytes := decodeBytes (Text.encode cs)

end Coap.Percent
