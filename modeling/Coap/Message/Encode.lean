import Coap.Message.Basic
import Coap.Message.Nibble

/-!
# Messages as datagrams

A datagram holds four octets of header, the token, the options in ascending order, each with the
distance of its number from the one before, and behind an octet `0xFF` the payload. An empty payload
has no such octet.

The only messages without a datagram are those with an option value of more than 65535 octets, or
with a gap of more than 65535 between the numbers of neighbouring options.
-/

namespace Coap

/-- Why a message has no datagram. -/
inductive EncodeError where
  /-- The number of the option is too far from the one before it. -/
  | deltaTooLarge (number : OptionNumber)
  /-- A value of the option is too long. -/
  | valueTooLong (number : OptionNumber) (length : Nat)
deriving DecidableEq, Repr

/-- What went wrong, for people. -/
def EncodeError.message : EncodeError → String
  | .deltaTooLarge n => s!"option {n.val.toNat} can't be encoded as a delta"
  | .valueTooLong n length => s!"option {n.val.toNat} value of {length} bytes is too long"

namespace Message

/-- An option with the distance of its number from the one before. -/
def encodeOption (delta : Nat) (value : Bytes) : Bytes :=
  let d := Nibble.encode delta
  let l := Nibble.encode value.length
  ((d.1 <<< 4) ||| l.1) :: (d.2 ++ l.2 ++ value)

/-- Single options in wire order, the first of them after `prev`; `done` holds the octets of those
before, last option first. -/
def encodeOptions (prev : OptionNumber) (done : List Bytes) :
    List (OptionNumber × Bytes) → Except EncodeError Bytes
  | [] => .ok done.reverse.flatten
  | (n, value) :: rest =>
    let delta := n.val.toNat - prev.val.toNat
    if 65535 < delta then .error (.deltaTooLarge n)
    else if 65535 < value.length then .error (.valueTooLong n value.length)
    else encodeOptions n (encodeOption delta value :: done) rest

/-- Version, type and length of the token in one octet. -/
def headByte (m : Message) : UInt8 :=
  (m.version <<< 6) ||| (m.type.toByte <<< 4) ||| (m.token.bytes.length.toUInt8 &&& 0x0F)

/-- Header and token. -/
def encodeHead (m : Message) : Bytes :=
  m.headByte :: m.code.toByte :: (m.id >>> 8).toUInt8 :: m.id.toUInt8 :: m.token.bytes

/-- The payload behind its marker. -/
def encodePayload (payload : Bytes) : Bytes :=
  if payload.isEmpty then [] else 0xFF :: payload

/-- The datagram of a message. -/
def encode (m : Message) : Except EncodeError Bytes :=
  (encodeOptions ⟨0⟩ [] m.options.instances).map fun options =>
    m.encodeHead ++ options ++ encodePayload m.payload

end Message

end Coap
