import Coap.Json
import Coap.Text.Split

/-!
# Numerals

The JSON value that a numeral stands for: a whole number if it is written as one and has 64 bits, with or
without a sign, and a floating-point number in all other cases. Of a numeral with more digits than fit in
64 bits, those behind the leading ones only count for its size.
-/

namespace Coap.Json

/-- The value of a digit. -/
def digitValue (c : Char) : Nat := c.toNat - 0x30

/-- Append digits to a number while it fits in 64 bits; how many are left over. -/
def appendDigits (n : Nat) : List Char → Nat × Nat
  | [] => (n, 0)
  | c :: rest =>
    let more := n * 10 + digitValue c
    if more < UInt64.size then appendDigits more rest else (n, rest.length + 1)

/-- The number that digits stand for, if there are any and nothing else. -/
def natural? (cs : List Char) : Option Nat :=
  if cs.isEmpty || !cs.all Char.isDigit then none
  else some (cs.foldl (fun n c => n * 10 + digitValue c) 0)

/-- The number that digits behind an optional sign stand for. -/
def exponent? (cs : List Char) : Option Int :=
  match cs with
  | '+' :: digits => Int.ofNat <$> natural? digits
  | '-' :: digits => (fun n => -Int.ofNat n) <$> natural? digits
  | digits => Int.ofNat <$> natural? digits

/-- A whole number with a sign, if it has 64 bits. The negative zero is none. -/
def signed? (negative : Bool) (n : Nat) : Option Int :=
  if !negative then if n < UInt64.size then some n else none
  else if 0 < n ∧ n ≤ UInt64.size / 2 then some (-n)
  else none

/-- The value of a numeral without its sign. -/
def unsigned? (negative : Bool) (cs : List Char) : Option Json := do
  let (decimal, power) := (Text.splitOnceChars 'e' (cs.map Char.toLower)).getD (cs, ['0'])
  let (whole, fraction) := (Text.splitOnceChars '.' decimal).getD (decimal, [])
  let size ← natural? whole
  let power ← exponent? power
  if !fraction.all Char.isDigit then none
  match if cs.all Char.isDigit then signed? negative size else none with
  | some n => some (.integer n)
  | none =>
    let (digits, dropped) := appendDigits 0 whole
    let (digits, ignored) := appendDigits digits fraction
    let exponent := dropped - (fraction.length - ignored : Int) + power
    let x ← Decimal.toFloat? ⟨digits, exponent⟩
    some (.number (if negative then -x else x))

/-- The value of a numeral. -/
def numeral? (cs : List Char) : Option Json :=
  match cs with
  | '-' :: rest => unsigned? true rest
  | _ => unsigned? false cs

/-- A number as a floating-point number. -/
def toFloat? (j : Json) : Option Float :=
  match j with
  | .integer n => some (Float.ofInt n)
  | .number x => some x
  | _ => none

end Coap.Json
