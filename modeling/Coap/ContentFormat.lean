import Coap.Text.Split
import Coap.Text.Blank
import Coap.Bytes

/-!
# Content formats

The number a message gives for the format of its payload, and the media type registered for it.
-/

namespace Coap

/-- The format of a payload. -/
inductive ContentFormat where
  /-- `text/plain; charset=utf-8` -/
  | text
  /-- `application/link-format` -/
  | linkFormat
  /-- `application/xml` -/
  | xml
  /-- `application/octet-stream` -/
  | octetStream
  /-- `application/exi` -/
  | exi
  /-- `application/json` -/
  | json
  /-- `application/cbor` -/
  | cbor
  /-- A format without a name here. -/
  | other (number : UInt16)
deriving DecidableEq, Repr, Inhabited

namespace ContentFormat

/-- The format a number stands for. -/
def ofNumber (n : UInt16) : ContentFormat :=
  if n = 0 then .text
  else if n = 40 then .linkFormat
  else if n = 41 then .xml
  else if n = 42 then .octetStream
  else if n = 47 then .exi
  else if n = 50 then .json
  else if n = 60 then .cbor
  else .other n

/-- The number of a format. -/
def number : ContentFormat → UInt16
  | .text => 0
  | .linkFormat => 40
  | .xml => 41
  | .octetStream => 42
  | .exi => 47
  | .json => 50
  | .cbor => 60
  | .other n => n

/-- The number of a format as two octets in network order. -/
def bytes (f : ContentFormat) : Bytes := [(f.number >>> 8).toUInt8, f.number.toUInt8]

/-- The registered media type of a format. -/
def mediaType? : ContentFormat → Option String
  | .text => some "text/plain; charset=utf-8"
  | .linkFormat => some "application/link-format"
  | .xml => some "application/xml"
  | .octetStream => some "application/octet-stream"
  | .exi => some "application/exi"
  | .json => some "application/json"
  | .cbor => some "application/cbor"
  | .other _ => none

/-- The formats by media type, in lower case and without parameters. -/
def registered : List (String × ContentFormat) :=
  [("text/plain", .text), ("application/link-format", .linkFormat), ("application/xml", .xml),
    ("text/xml", .xml), ("application/octet-stream", .octetStream), ("application/exi", .exi),
    ("application/json", .json), ("application/cbor", .cbor)]

/-- A media type without its parameters and the blanks around it, in lower case. -/
def essence (mediaType : String) : String :=
  String.ofList
    ((Text.trimChars Text.isBlank (mediaType.toList.takeWhile (· ≠ ';'))).map Char.toLower)

/-- The format of a media type; parameters and letter case do not matter. -/
def ofMediaType? (mediaType : String) : Option ContentFormat :=
  (registered.find? fun entry => entry.1 = essence mediaType).map (·.2)

/-- A format is the one its number stands for, unless it hides a registered number. -/
theorem number_ofNumber (n : UInt16) : (ofNumber n).number = n := by
  unfold ofNumber
  repeat' split
  all_goals simp_all [number]

end ContentFormat

end Coap
