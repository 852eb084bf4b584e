import Coap.Domain.Joining
import Coap.Domain.Mapping.Ideographs
import Coap.Domain.Mapping.Letters
import Coap.Domain.Mapping.Sequences
import Coap.Text.Shapeless

/-!
# What counts in domain names

Of all forms of a character, one stands for all of them in domain names; some characters do not count at
all, and some are refused (Unicode 17).

* `Domain.map?` — what a character counts as.
-/

namespace Coap.Domain

/-- Characters that do not count. -/
def ignored : List (Nat × Nat) := [
  (0xad, 0xad), (0x34f, 0x34f), (0x115f, 0x1160), (0x17b4, 0x17b5), (0x180b, 0x180f),
  (0x200b, 0x200b), (0x2060, 0x2064), (0x206a, 0x206f), (0x3164, 0x3164), (0xfe00, 0xfe0f),
  (0xfeff, 0xfeff), (0xffa0, 0xffa0), (0x1bca0, 0x1bca3), (0x1d173, 0x1d17a), (0xe0100, 0xe01ef)]

/-- Characters that are refused though they have a shape: some that stand for a full stop, and those that
describe or replace others. -/
def refused : List (Nat × Nat) := [
  (0x2024, 0x2026), (0x2488, 0x249b), (0x2ff0, 0x2fff), (0x31ef, 0x31ef), (0x33c2, 0x33c2),
  (0x33c7, 0x33c7), (0x33d8, 0x33d8), (0xfe12, 0xfe12), (0xfe19, 0xfe19), (0xfe30, 0xfe30),
  (0xfe52, 0xfe52), (0xfffc, 0xfffd), (0x1f100, 0x1f100)]

/-- What a code point stands for, if not for itself. -/
def counterpart? (n : Nat) : Option (List Nat) :=
  match series.find? fun s => s.1 ≤ n && n ≤ s.2.1 && (n - s.1) % s.2.2.1 == 0 with
  | some s => some [s.2.2.2 + (n - s.1)]
  | none =>
    match [letters, letterSymbols, ideographs, upperIdeographs].findSome? (·.lookup n) with
    | some m => some [m]
    | none => (sequences.lookup n).or (upperSequences.lookup n)

/-- May the character stand in a name, if it has no counterpart? -/
def isAllowed (c : Char) : Bool :=
  c == parter || c == joiner
    || (!inRanges c.toNat refused && (isMark c || !Text.isShapeless c))

/-- What a character counts as, unless it is refused. -/
def map? (c : Char) : Option (List Char) :=
  if c.toNat < 0x80 then some [c.toLower]
  else if inRanges c.toNat ignored then some []
  else
    match counterpart? c.toNat with
    | some ns => some (ns.map Char.ofNat)
    | none => if isAllowed c then some [c] else none

end Coap.Domain
