/-!
# Labels in few characters

A label with characters beyond ASCII is coded by those of ASCII in it, and by a number for each of the
others in the order of their code points. The number says how many steps lie between it and the one
before, where a step moves the place by one or, from the end, to the start and the code point by one. So
each number is one character to put into what stands already.

Numbers are written in base 36, lowest digit first. A digit below a threshold ends a number; how the
thresholds ascend depends on the size of the number before.

* `Punycode.encode`, `Punycode.decode?` — code a label, and read it.
-/

namespace Coap.Domain.Punycode

/-! ## Numbers -/

/-- The base of the numbers. -/
def base : Nat := 36

/-- A digit: letters, then figures. -/
def digitChar (d : Nat) : Char := if d < 26 then Char.ofNat (0x61 + d) else Char.ofNat (0x30 + (d - 26))

/-- The value of a digit. -/
def digit? (c : Char) : Option Nat :=
  if c.isDigit then some (c.toNat - 0x30 + 26)
  else if c.isAlpha then some (c.toLower.toNat - 0x61)
  else none

/-- The threshold for the digit at a place, counted in bases from 1. -/
def threshold (bias place : Nat) : Nat := max 1 (min 26 (base * place - bias))

theorem threshold_pos (bias place : Nat) : 0 < threshold bias place := by
  unfold threshold
  omega

/-- The digits of a number, from a place on. -/
def writeNumber (bias place n : Nat) : List Char :=
  let t := threshold bias place
  if n < t then [digitChar n]
  else
    digitChar (t + (n - t) % (base - t)) :: writeNumber bias (place + 1) ((n - t) / (base - t))
termination_by n
decreasing_by
  have h := threshold_pos bias place
  exact Nat.lt_of_le_of_lt (Nat.div_le_self _ _) (by omega)

/-- Numbers are below this. -/
def maxNumber : Nat := 1 <<< 32

/-- Read the digits of a number from a place on, where a digit counts `weight` times; what follows is
returned with it. -/
def readNumber (bias place weight : Nat) : List Char → Option (Nat × List Char)
  | [] => none
  | c :: rest => do
    let d ← digit? c
    let t := threshold bias place
    if maxNumber ≤ d * weight then none
    else if d < t then some (d, rest)
    else if maxNumber ≤ weight * (base - t) then none
    else
      let (n, rest) ← readNumber bias (place + 1) (weight * (base - t)) rest
      some (d + n * (base - t), rest)

/-! ## Thresholds -/

/-- Divide by 35 until 455 is not exceeded, and count how often. -/
def shrink (n : Nat) : Nat × Nat :=
  if 455 < n then
    let p := shrink (n / 35)
    (p.1, p.2 + 1)
  else (n, 0)
termination_by n
decreasing_by omega

/-- The bias behind a number, where so many characters stand. -/
def adapt (number length : Nat) (first : Bool) : Nat :=
  let n := if first then number / 700 else number / 2
  let (n, times) := shrink (n + n / length)
  base * times + base * n / (n + 38)

/-! ## Labels -/

/-- What stands already: the last code point put in, the place behind it, how many characters there are,
and the bias of the next number. -/
structure Cursor where
  /-- The last code point, or the first one beyond ASCII. -/
  point : Nat
  /-- The place behind it. -/
  place : Nat
  /-- How many characters stand already. -/
  length : Nat
  /-- The bias of the next number. -/
  bias : Nat
  /-- Is the next number the first one? -/
  first : Bool
deriving Repr, Inhabited

/-- Before the first number, the characters of ASCII stand. -/
def Cursor.start (length : Nat) : Cursor := ⟨0x80, 0, length, 72, true⟩

/-- After a number that puts a code point at a place. -/
def Cursor.next (s : Cursor) (number point place : Nat) : Cursor :=
  ⟨point, place + 1, s.length + 1, adapt number (s.length + 1) s.first, false⟩

/-- The number that puts a code point at a place. -/
def Cursor.number (s : Cursor) (point place : Nat) : Nat :=
  (point - s.point) * (s.length + 1) + place - s.place

/-- Where a code point stands among those that are not higher; `place` of those were passed over. -/
def places (point place : Nat) : List Char → List Nat
  | [] => []
  | c :: rest =>
    if c.toNat = point then place :: places point (place + 1) rest
    else places point (if c.toNat < point then place + 1 else place) rest

/-- The numbers that put in code points at places. -/
def writeAll (s : Cursor) : List (Nat × Nat) → List Char
  | [] => []
  | (point, place) :: rest =>
    let n := s.number point place
    writeNumber s.bias 1 n ++ writeAll (s.next n point place) rest

/-- Does the character belong to ASCII? -/
def isAscii (c : Char) : Bool := c.toNat < 0x80

/-- The code for a label. -/
def encode (label : List Char) : List Char :=
  let ascii := label.filter isAscii
  let points := ((label.filter (!isAscii ·)).map Char.toNat).eraseDups.mergeSort
  let steps := points.flatMap fun point => (places point 0 label).map fun place => (point, place)
  ascii ++ (if ascii.isEmpty then [] else ['-']) ++ writeAll (.start ascii.length) steps

/-- Put in the characters that numbers say. Each takes a digit at least, so that there are no more of
them than `fuel`, the digits. -/
def readAll : Nat → Cursor → List Char → List Char → Option (List Char)
  | 0, _, label, code => if code.isEmpty then some label else none
  | fuel + 1, s, label, code =>
    if code.isEmpty then some label
    else do
      let (n, code) ← readNumber s.bias 1 1 code
      let steps := s.place + n
      let point := s.point + steps / (s.length + 1)
      let place := steps % (s.length + 1)
      if maxNumber ≤ steps || !point.isValidChar then none
      else readAll fuel (s.next n point place) (label.insertIdx place (Char.ofNat point)) code

/-- The characters before the last hyphen, if any, and those behind it. -/
def splitCode (code : List Char) : List Char × List Char :=
  let numbers := (code.reverse.takeWhile (· ≠ '-')).reverse
  match (code.reverse.dropWhile (· ≠ '-')).reverse with
  | [] => ([], numbers)
  | ['-'] => ([], '-' :: numbers)
  | ascii => (ascii.dropLast, numbers)

/-- The label that a code stands for. -/
def decode? (code : List Char) : Option (List Char) :=
  let (ascii, numbers) := splitCode code
  if ascii.all isAscii then readAll numbers.length (.start ascii.length) ascii numbers else none

end Coap.Domain.Punycode
