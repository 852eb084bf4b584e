/-!
# Stamped values

A value with the time at which it arose. Times are nanoseconds on a clock that never goes back.
`Stamped.latest` is the fold that picks the most recent of several values: of equal times, the one
that comes later in the list.
-/

namespace Coap

/-- A reading of the clock, in nanoseconds. -/
abbrev Instant := Nat

/-- A value with the time at which it arose. -/
structure Stamped (α : Type u) where
  /-- The value. -/
  data : α
  /-- When it arose. -/
  time : Instant
deriving DecidableEq, Repr, Inhabited

namespace Stamped

/-- The more recent of the winner so far and a further value, which also wins a tie. -/
def later (winner : Option (Stamped α)) (next : Stamped α) : Option (Stamped α) :=
  match winner with
  | some w => if next.time < w.time then some w else some next
  | none => some next

/-- The most recent of several values. -/
def latest (values : List (Stamped α)) : Option (Stamped α) := values.foldl later none

/-- By value first, then by time. -/
instance [Ord α] : Ord (Stamped α) := ⟨fun a b => (compare a.data b.data).then (compare a.time b.time)⟩

end Stamped

end Coap
