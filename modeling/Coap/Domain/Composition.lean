import Coap.Domain.CombiningClass
import Coap.Domain.Compositions

/-!
# Composed form

A letter with marks can be written as one character or as several, and marks that do not touch each other
in any order. In the composed form the marks stand in the order of their classes and as many of them as
can be are part of the letter.

* `decompose` — a character as a letter and marks.
* `order` — marks in the order of their classes.
* `compose` — letters with the marks that they take in.
* `canonical` — the composed form.
-/

namespace Coap.Domain

/-! ## Syllables of Hangul -/

/-- The first syllable; the others follow in the order of their initials, vowels and finals. -/
def firstSyllable : Nat := 0xAC00

/-- The first of 19 initials. -/
def firstInitial : Nat := 0x1100

/-- The first of 21 vowels. -/
def firstVowel : Nat := 0x1161

/-- What precedes the first of 27 finals and stands for none. -/
def noFinal : Nat := 0x11A7

/-- The parts of a syllable. -/
def syllableParts? (n : Nat) : Option (List Nat) :=
  if firstSyllable ≤ n && n < firstSyllable + 19 * 21 * 28 then
    let index := n - firstSyllable
    let final := if index % 28 = 0 then [] else [noFinal + index % 28]
    some ([firstInitial + index / (21 * 28), firstVowel + index / 28 % 21] ++ final)
  else none

/-- The syllable of an initial and a vowel, or of a syllable without a final and a final. -/
def syllable? (a b : Nat) : Option Nat :=
  if firstInitial ≤ a && a < firstInitial + 19 && firstVowel ≤ b && b < firstVowel + 21 then
    some (firstSyllable + ((a - firstInitial) * 21 + (b - firstVowel)) * 28)
  else if firstSyllable ≤ a && a < firstSyllable + 19 * 21 * 28 && (a - firstSyllable) % 28 == 0
      && noFinal < b && b < noFinal + 28 then
    some (a + (b - noFinal))
  else none

/-! ## Taking apart -/

/-- A code point as a letter and marks; a letter with so many marks at most is taken apart. -/
def decomposePoint : Nat → Nat → List Nat
  | 0, n => [n]
  | depth + 1, n =>
    match compositions.find? fun e => e.2.2 = n with
    | some e => decomposePoint depth e.1 ++ [e.2.1]
    | none => [n]

/-- No character has more marks than this. -/
def maxMarks : Nat := 4

/-- A character as a letter and marks, or as the parts of a syllable. -/
def decompose (c : Char) : List Char :=
  ((syllableParts? c.toNat).getD (decomposePoint maxMarks c.toNat)).map Char.ofNat

/-! ## Marks in order -/

/-- Put a character in front of others, or behind the marks of lower classes among them. -/
def insertMark (c : Char) : List Char → List Char
  | [] => [c]
  | d :: rest =>
    if combiningClass d ≠ 0 ∧ combiningClass d < combiningClass c then d :: insertMark c rest
    else c :: d :: rest

/-- Marks in the order of their classes; those of one class stay in order. -/
def order (cs : List Char) : List Char := cs.foldr insertMark []

/-! ## Putting together -/

/-- The character for two. -/
def pair? (a b : Char) : Option Char :=
  let found := (compositions.find? fun e => e.1 = a.toNat && e.2.1 = b.toNat).map (·.2.2)
  ((syllable? a.toNat b.toNat).or found).map Char.ofNat

/-- A letter, marks that it did not take in, and what follows, with the marks taken in that can be: those
before which no other of the same or a higher class stands. -/
def composeFrom (letter : Char) (marks : List Char) : List Char → List Char
  | [] => letter :: marks
  | c :: rest =>
    let blocked := (marks.getLast?.map fun m => decide (combiningClass c ≤ combiningClass m)).getD false
    match if blocked then none else pair? letter c with
    | some both => composeFrom both marks rest
    | none =>
      if combiningClass c = 0 then letter :: marks ++ composeFrom c [] rest
      else composeFrom letter (marks ++ [c]) rest

/-- Letters with the marks that they take in. -/
def compose : List Char → List Char
  | [] => []
  | c :: rest => composeFrom c [] rest

/-- The composed form. -/
def canonical (cs : List Char) : List Char := compose (order (cs.flatMap decompose))

end Coap.Domain
