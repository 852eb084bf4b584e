import Coap.Bytes

/-!
# Deltas and lengths in option headers

An option header holds a delta and a length in four bits each. Up to 12 the nibble is the number
itself; 13 announces one further octet, which counts from 13, and 14 two further octets, which count
from 269. The value 15 is reserved. `Nibble.encode` chooses the only form for its number.
-/

namespace Coap

/-- Why options could not be read. -/
inductive OptionError where
  /-- The octets end inside an option. -/
  | truncated
  /-- The nibble of a delta is reserved. -/
  | reservedDelta (nibble : UInt8)
  /-- The nibble of a length is reserved. -/
  | reservedLength (nibble : UInt8)
  /-- A delta or length exceeds 16 bits. -/
  | overflow
  /-- There are no more options. -/
  | exhausted
deriving DecidableEq, Repr, Inhabited

/-- What went wrong, for people. -/
def OptionError.message : OptionError → String
  | .truncated => "option truncated"
  | .reservedDelta n => s!"reserved option delta nibble {n.toNat}"
  | .reservedLength n => s!"reserved option length nibble {n.toNat}"
  | .overflow => "option number overflowed"
  | .exhausted => "no more options"

namespace Nibble

/-- The nibble for a delta or length, and the octets that extend it. -/
def encode (n : Nat) : UInt8 × Bytes :=
  if 269 ≤ n then (14, [((n - 269) / 256).toUInt8, (n - 269).toUInt8])
  else if 13 ≤ n then (13, [(n - 13).toUInt8])
  else (n.toUInt8, [])

/-- The delta or length a nibble and the octets behind it stand for, and the octets that are left;
`reserved` is the error for 15. -/
def decode (nibble : UInt8) (bytes : Bytes) (reserved : OptionError) :
    Except OptionError (Nat × Bytes) :=
  if nibble = 15 then .error reserved
  else if nibble = 14 then
    match bytes with
    | hi :: lo :: rest =>
      let n := hi.toNat * 256 + lo.toNat + 269
      if 65535 < n then .error .overflow else .ok (n, rest)
    | _ => .error .truncated
  else if nibble = 13 then
    match bytes with
    | b :: rest => .ok (b.toNat + 13, rest)
    | [] => .error .truncated
  else .ok (nibble.toNat, bytes)

/-- Reading a nibble never lengthens the octets. -/
theorem length_le_of_decode {nibble : UInt8} {bytes rest : Bytes} {reserved : OptionError} {n : Nat}
    (h : decode nibble bytes reserved = .ok (n, rest)) : rest.length ≤ bytes.length := by
  unfold decode at h
  split at h
  · simp at h
  · split at h
    · split at h
      · dsimp only at h
        split at h
        · simp at h
        · simp only [Except.ok.injEq, Prod.mk.injEq] at h
          rw [← h.2]
          simp only [List.length_cons]
          omega
      · simp at h
    · split at h
      · split at h
        · simp only [Except.ok.injEq, Prod.mk.injEq] at h
          rw [← h.2]
          simp
        · simp at h
      · simp only [Except.ok.injEq, Prod.mk.injEq] at h
        exact Nat.le_of_eq (congrArg List.length h.2.symm)

end Nibble

end Coap
