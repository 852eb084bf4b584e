import Coap.Bytes

/-!
# UTF-8

Text travels as UTF-8. `Text.bytes` writes a string and `Text.ofBytes?` reads one, refusing every
ill-formed sequence. `Text.ofBytesLossy` reads any octets and puts U+FFFD in the place of each
maximal part of an ill-formed sequence that could have started a character.

Both readers go through `Utf8.scan`, one character or ill-formed part at a time.
-/

namespace Coap

namespace Utf8

/-- An octet that continues a character. -/
def isTail (b : UInt8) : Bool := 0x80 ≤ b && b ≤ 0xBF

/-- The admissible second octets after a given first octet of three: no overlong forms and no
surrogates. -/
def second3 (a b : UInt8) : Bool :=
  if a = 0xE0 then 0xA0 ≤ b && b ≤ 0xBF
  else if a = 0xED then 0x80 ≤ b && b ≤ 0x9F
  else isTail b

/-- The admissible second octets after a given first octet of four: no overlong forms and nothing
above U+10FFFF. -/
def second4 (a b : UInt8) : Bool :=
  if a = 0xF0 then 0x90 ≤ b && b ≤ 0xBF
  else if a = 0xF4 then 0x80 ≤ b && b ≤ 0x8F
  else isTail b

/-- The six value bits of a continuing octet. -/
def tailBits (b : UInt8) : Nat := b.toNat % 64

/-- The character that starts at octet `a`, or `none` if none does, with the number of further
octets it takes up; for an ill-formed sequence, that of its longest part which could have started
a character. -/
def scan (a : UInt8) (rest : Bytes) : Option Char × Nat :=
  if a < 0x80 then (some (Char.ofNat a.toNat), 0)
  else if 0xC2 ≤ a ∧ a ≤ 0xDF then
    match rest with
    | b :: _ =>
      if isTail b then (some (Char.ofNat (a.toNat % 32 * 64 + tailBits b)), 1) else (none, 0)
    | [] => (none, 0)
  else if 0xE0 ≤ a ∧ a ≤ 0xEF then
    match rest with
    | b :: c :: _ =>
      if second3 a b then
        if isTail c then
          (some (Char.ofNat (a.toNat % 16 * 4096 + tailBits b * 64 + tailBits c)), 2)
        else (none, 1)
      else (none, 0)
    | [b] => if second3 a b then (none, 1) else (none, 0)
    | [] => (none, 0)
  else if 0xF0 ≤ a ∧ a ≤ 0xF4 then
    match rest with
    | b :: c :: d :: _ =>
      if second4 a b then
        if isTail c then
          if isTail d then
            (some (Char.ofNat (a.toNat % 8 * 262144 + tailBits b * 4096 + tailBits c * 64
              + tailBits d)), 3)
          else (none, 2)
        else (none, 1)
      else (none, 0)
    | [b, c] => if second4 a b then if isTail c then (none, 2) else (none, 1) else (none, 0)
    | [b] => if second4 a b then (none, 1) else (none, 0)
    | [] => (none, 0)
  else (none, 0)

/-- The characters of a string of octets, `none` standing for each ill-formed part. -/
def segments : Bytes → List (Option Char)
  | [] => []
  | a :: rest =>
    let step := scan a rest
    step.1 :: segments (rest.drop step.2)
termination_by bytes => bytes.length
decreasing_by simp only [List.length_drop, List.length_cons]; omega

end Utf8

namespace Text

/-- The UTF-8 octets of some characters. -/
def encode (chars : List Char) : Bytes := chars.flatMap String.utf8EncodeChar

/-- The UTF-8 octets of a string. -/
def bytes (s : String) : Bytes := encode s.toList

/-- Number of UTF-8 octets of a string. -/
def byteLength (s : String) : Nat := (bytes s).length

/-- The characters that well-formed UTF-8 octets stand for. -/
def decode? (octets : Bytes) : Option (List Char) := (Utf8.segments octets).mapM id

/-- The string that well-formed UTF-8 octets stand for. -/
def ofBytes? (octets : Bytes) : Option String := (decode? octets).map String.ofList

/-- The string that octets stand for, with U+FFFD for each ill-formed part. -/
def ofBytesLossy (octets : Bytes) : String :=
  String.ofList ((Utf8.segments octets).map (·.getD '\uFFFD'))

end Text

end Coap
