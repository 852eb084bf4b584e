import Coap.Binary

/-!
# Decimals

Numbers are read and written in decimal and worked with in binary.

* `Decimal.toFloat?` reads: the digits are rounded to a binary number, and so is its product or quotient
  with the power of ten.
* `Decimal.ofBinary` writes: of all decimals that lie nearer to a binary number than to its neighbours it
  has the fewest digits, and of those it is the nearest one. In `Nat`, no rounding comes in: a binary
  number is a whole number of some power of ten, and so are the gaps around it in quarters.
-/

namespace Coap

/-- Digits times a power of ten. -/
structure Decimal where
  /-- The digits, as a number. -/
  digits : Nat
  /-- The exponent of the power of ten. -/
  exponent : Int
deriving DecidableEq, Repr, Inhabited

namespace Decimal

/-! ## Reading -/

/-- The largest power of ten that a floating-point number holds. -/
def maxPower : Nat := 308

/-- A power of ten, rounded. -/
def power (n : Nat) : Float := Float.ofScientific 1 false n

/-- A floating-point number divided by a power of ten, the largest one at a time. -/
def divide (x : Float) (n : Nat) : Float :=
  if n ≤ maxPower then x / power n
  else if x == 0 then x
  else divide (x / power maxPower) (n - maxPower)
termination_by n
decreasing_by simp_all [maxPower]; omega

/-- The floating-point number for a decimal whose digits have 64 bits, if it is not too large. -/
def toFloat? (d : Decimal) : Option Float :=
  let x := d.digits.toUInt64.toFloat
  match d.exponent with
  | .negSucc n => some (divide x (n + 1))
  | .ofNat n =>
    if n ≤ maxPower then
      let product := x * power n
      if product.isFinite then some product else none
    else if x == 0 then some x
    else none

/-! ## Writing -/

/-- A binary number and its unit as whole numbers of a power of ten, and the exponent of that. -/
structure Scaled where
  /-- The number. -/
  value : Nat
  /-- The distance to the number above. -/
  unit : Nat
  /-- The exponent of the power of ten. -/
  exponent : Int
deriving Repr, Inhabited

/-- Powers of two are themselves whole, and their inverses are powers of five over powers of ten. -/
def Scaled.ofBinary (x : Binary) : Scaled :=
  match x.exponent with
  | .ofNat n => let unit := Nat.pow 2 n; ⟨x.significand * unit, unit, 0⟩
  | .negSucc n => let unit := Nat.pow 5 (n + 1); ⟨x.significand * unit, unit, -(n + 1 : Int)⟩

/-- Does a decimal at a distance read back, if half the gap is so many quarters of a unit? The point in
the middle goes to the number with the even significand. -/
def within (even : Bool) (distance quarters unit : Nat) : Bool :=
  4 * distance < quarters * unit || (even && 4 * distance == quarters * unit)

/-- Of the two neighbours of a number among the multiples of `step`, the nearest that reads back, as a
multiple. Of two at the same distance it is the even one. -/
def nearest? (x : Binary) (s : Scaled) (step : Nat) : Option Nat :=
  let low := s.value / step
  let down := s.value % step
  let up := step - down
  let even := x.significand % 2 == 0
  let lowReads := within even down (if x.narrowBelow then 1 else 2) s.unit
  let highReads := within even up 2 s.unit
  let lowWins := down < up || (down == up && low % 2 == 0)
  if lowReads && (lowWins || !highReads) then some low
  else if highReads then some (low + 1)
  else none

/-- The nearest decimal that reads back, with as many digits cut off as can be and at most `cut`. -/
def search (x : Binary) (s : Scaled) : Nat → Decimal
  | 0 => ⟨s.value, s.exponent⟩
  | cut + 1 =>
    match nearest? x s (Nat.pow 10 (cut + 1)) with
    | some digits => ⟨digits, s.exponent + (cut + 1 : Int)⟩
    | none => search x s cut

/-- The decimal for the size of a binary number other than zero. -/
def ofBinary (x : Binary) : Decimal :=
  let s := Scaled.ofBinary x
  search x s (Nat.toDigits 10 s.value).length

end Decimal

end Coap
