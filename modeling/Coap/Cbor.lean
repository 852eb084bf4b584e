import Coap.Text.Utf8

/-!
# CBOR

Data items and their binary form. Numbers and lengths take as few octets as they can; maps are written
with an end mark instead of a length.
-/

namespace Coap

/-- A CBOR data item. -/
inductive Cbor where
  /-- A number that is not negative. -/
  | unsigned (n : UInt64)
  /-- A text string. -/
  | text (s : String)
  /-- `true` or `false` -/
  | bool (b : Bool)
  /-- A list of known length. -/
  | array (items : List Cbor)
  /-- Names with values, up to an end mark. -/
  | openMap (members : List (String × Cbor))
deriving Inhabited

namespace Cbor

/-- The initial octet of an item of a major type, and its argument in as few octets as possible. -/
def head (major : UInt8) (n : Nat) : Bytes :=
  let first (info : UInt8) : UInt8 := (major <<< 5) ||| info
  if n < 24 then [first n.toUInt8]
  else if n < 256 then [first 24, n.toUInt8]
  else if n < 65536 then [first 25, (n / 256).toUInt8, n.toUInt8]
  else if n < 4294967296 then
    [first 26, (n / 16777216).toUInt8, (n / 65536).toUInt8, (n / 256).toUInt8, n.toUInt8]
  else
    first 27 :: (List.range 8).map fun i => (n >>> (8 * (7 - i))).toUInt8

/-- A text string. -/
def textBytes (s : String) : Bytes :=
  let octets := Text.bytes s
  head 3 octets.length ++ octets

mutual

/-- The binary form of an item. -/
def bytes : Cbor → Bytes
  | .unsigned n => head 0 n.toNat
  | .text s => textBytes s
  | .bool b => [if b then 0xF5 else 0xF4]
  | .array items => head 4 items.length ++ itemBytes items
  | .openMap members => 0xBF :: memberBytes members ++ [0xFF]

/-- The binary forms of some items. -/
def itemBytes : List Cbor → Bytes
  | [] => []
  | item :: more => item.bytes ++ itemBytes more

/-- The binary forms of the members of a map. -/
def memberBytes : List (String × Cbor) → Bytes
  | [] => []
  | (name, value) :: more => textBytes name ++ value.bytes ++ memberBytes more

end

end Cbor

end Coap
