import Coap.Decimal
import Coap.Text.Utf8

/-!
# JSON

Values and their most compact text: no blanks, and in strings only the quote, the backslash and control
characters are escaped. The members of an object are written in the order in which they stand, and
floating-point numbers with no more digits than tell them from their neighbours.
-/

namespace Coap

/-- A JSON value. -/
inductive Json where
  /-- `null` -/
  | null
  /-- `true` or `false` -/
  | bool (b : Bool)
  /-- A whole number. -/
  | integer (n : Int)
  /-- A floating-point number. -/
  | number (x : Float)
  /-- A string. -/
  | string (s : String)
  /-- A list. -/
  | array (items : List Json)
  /-- Names with values. -/
  | object (members : List (String × Json))
deriving Inhabited

namespace Json

/-- How a character is written in a string. -/
def escape (c : Char) : List Char :=
  match c with
  | '"' => ['\\', '"']
  | '\\' => ['\\', '\\']
  | '\x08' => ['\\', 'b']
  | '\x0c' => ['\\', 'f']
  | '\n' => ['\\', 'n']
  | '\r' => ['\\', 'r']
  | '\t' => ['\\', 't']
  | c =>
    if c.toNat < 0x20 then
      ['\\', 'u', '0', '0', Bytes.hexDigit (c.toNat / 16), Bytes.hexDigit (c.toNat % 16)]
    else [c]

/-- A string in quotes. -/
def stringChars (s : String) : List Char := '"' :: s.toList.flatMap escape ++ ['"']

/-- A decimal: positional if the point falls among the first sixteen digits, right behind them, or up to
four zeros before them, and with an exponent otherwise. There is always a digit behind the point of a
positional one, and always a sign before an exponent. -/
def decimalChars (d : Decimal) : List Char :=
  let digits := Nat.toDigits 10 d.digits
  let places := digits.length + d.exponent
  if 0 < places ∧ places ≤ 16 then
    if 0 ≤ d.exponent then digits ++ List.replicate d.exponent.toNat '0' ++ ['.', '0']
    else digits.take places.toNat ++ '.' :: digits.drop places.toNat
  else if -5 < places ∧ places ≤ 0 then
    '0' :: '.' :: List.replicate (-places).toNat '0' ++ digits
  else
    let more := digits.drop 1
    let sign := if places - 1 < 0 then '-' else '+'
    digits.take 1 ++ (if more.isEmpty then [] else '.' :: more)
      ++ 'e' :: sign :: Nat.toDigits 10 (places - 1).natAbs

/-- A floating-point number in its shortest decimal. JSON has no other numbers than finite ones. -/
def numberChars (x : Float) : List Char :=
  match Binary.ofFloat? x with
  | none => "null".toList
  | some b =>
    let size := if b.significand = 0 then ['0', '.', '0'] else decimalChars (.ofBinary b)
    if b.negative then '-' :: size else size

/-- Pieces with commas between them. -/
def commaSeparated : List (List Char) → List Char
  | [] => []
  | [piece] => piece
  | piece :: more => piece ++ ',' :: commaSeparated more

mutual

/-- The compact text of a value. -/
def chars : Json → List Char
  | .null => "null".toList
  | .bool b => (if b then "true" else "false").toList
  | .integer n => (toString n).toList
  | .number x => numberChars x
  | .string s => stringChars s
  | .array items => '[' :: commaSeparated (itemChars items) ++ [']']
  | .object members => '\x7b' :: commaSeparated (memberChars members) ++ ['\x7d']

/-- The compact texts of some values. -/
def itemChars : List Json → List (List Char)
  | [] => []
  | item :: more => item.chars :: itemChars more

/-- The compact texts of the members of an object. -/
def memberChars : List (String × Json) → List (List Char)
  | [] => []
  | (name, value) :: more => (stringChars name ++ ':' :: value.chars) :: memberChars more

end

/-- The compact text of a value. -/
def text (j : Json) : String := String.ofList j.chars

/-- The UTF-8 octets of the compact text of a value. -/
def bytes (j : Json) : Bytes := Text.encode j.chars

end Json

end Coap
