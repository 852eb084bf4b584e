import Coap.Binary

/-!
# Durations

A duration is a number of nanoseconds below `2^64` seconds. Sums and multiples that reach that bound
do not exist, and neither do products with a factor that is negative, too large or not a number.
-/

namespace Coap

/-- A span of time in nanoseconds. -/
structure Duration where
  /-- The whole span in nanoseconds. -/
  nanos : Nat
deriving DecidableEq, Repr, Inhabited

namespace Duration

/-- Nanoseconds in a second. -/
def perSecond : Nat := 1000000000

/-- The first number of nanoseconds that is too many. -/
def bound : Nat := UInt64.size * perSecond

/-- A number of seconds. -/
def ofSeconds (n : Nat) : Duration := ⟨n * perSecond⟩

/-- A number of milliseconds. -/
def ofMillis (n : Nat) : Duration := ⟨n * 1000000⟩

/-- Whole seconds. -/
def seconds (d : Duration) : Nat := d.nanos / perSecond

/-- Nanoseconds beyond the whole seconds. -/
def subsecond (d : Duration) : Nat := d.nanos % perSecond

/-- A duration, if it is not too long. -/
def checked (nanos : Nat) : Option Duration := if nanos < bound then some ⟨nanos⟩ else none

/-- A number of seconds and of nanoseconds on top of them, which may be more than a second, if that is
not too long. -/
def ofParts? (seconds nanos : Nat) : Option Duration := checked (seconds * perSecond + nanos)

/-- The sum of two durations, if it is not too long. -/
def add? (a b : Duration) : Option Duration := checked (a.nanos + b.nanos)

/-- A multiple of a duration, if it is not too long. -/
def scale? (n : Nat) (d : Duration) : Option Duration := checked (n * d.nanos)

/-! ## Products with a binary fraction -/

/-- `n / d` as the nearest whole number, a tie going to the even one. -/
def roundDiv (n d : Nat) : Nat :=
  let q := n / d
  let twice := 2 * (n % d)
  if twice < d then q else if d < twice then q + 1 else q + q % 2

/-- The duration in seconds as a floating-point number: the seconds plus the rest divided by 10^9. -/
def toFloat (d : Duration) : Float :=
  d.seconds.toUInt64.toFloat + d.subsecond.toUInt64.toFloat / perSecond.toUInt64.toFloat

/-- The duration of a floating-point number of seconds, to the nearest nanosecond with ties to even.
There is none for a negative number, for one of `2^64` or more, and for one that is not a number. -/
def ofFloat? (x : Float) : Option Duration := do
  let b ← Binary.ofFloat? x
  if b.significand = 0 then some ⟨0⟩
  else if b.negative then none
  else
    checked <|
      match b.exponent with
      | .ofNat n => b.significand <<< n * perSecond
      | .negSucc n => roundDiv (b.significand * perSecond) (1 <<< (n + 1))

/-- The duration times a factor, worked out in floating-point numbers. -/
def scaleFloat? (d : Duration) (factor : Float32) : Option Duration :=
  ofFloat? (factor.toFloat * d.toFloat)

end Duration

end Coap
