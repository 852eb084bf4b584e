import Coap.Text.Utf8

/-!
# Option values

An option value is a string of octets. Some options read it as a number: in network order, with
leading zero octets left out, so that zero is the empty value.
-/

namespace Coap.OptionValue

/-- The four octets of a number, most significant first. -/
def bigEndian (n : UInt32) : Bytes :=
  [(n >>> 24).toUInt8, (n >>> 16).toUInt8, (n >>> 8).toUInt8, n.toUInt8]

/-- The shortest value that stands for a number. -/
def ofUInt (n : UInt32) : Bytes := (bigEndian n).dropWhile (· == 0)

/-- The number a value stands for; none has more than four octets. -/
def toUInt? (value : Bytes) : Option UInt32 :=
  if 4 < value.length then none
  else some (value.foldl (fun n b => (n <<< 8) ||| b.toUInt32) 0)

end Coap.OptionValue
