/-!
# Binary numbers

What a floating-point number stands for: a whole number of at most 53 bits times a power of two. The
numbers around it lie one unit in the last place away, except that the one below a power of two is
nearer by half, where such a number begins a new range of exponents.
-/

namespace Coap

/-- A finite floating-point number, taken apart. -/
structure Binary where
  /-- Is it below zero, or the negative zero? -/
  negative : Bool
  /-- Its size in units. -/
  significand : Nat
  /-- Which power of two the unit is. -/
  exponent : Int
deriving DecidableEq, Repr, Inhabited

namespace Binary

/-- The parts of a floating-point number. There are none if it is infinite or not a number. -/
def ofFloat? (x : Float) : Option Binary :=
  let bits := x.toBits.toNat
  let range := bits >>> 52 % 2048
  let fraction := bits % (1 <<< 52)
  if range = 2047 then none
  else some {
    negative := UInt64.size / 2 ≤ bits
    significand := if range = 0 then fraction else fraction + 1 <<< 52
    -- the numbers nearest to zero have no bit of their own in front, and the unit of the next range
    exponent := (max range 1 : Int) - 1075 }

/-- Is the number below only half a unit away? -/
def narrowBelow (x : Binary) : Bool := x.significand == 1 <<< 52 && -1074 < x.exponent

end Binary

end Coap
