import Coap.Duration
import Coap.Key
import Coap.OrderedMap

/-!
# Retention by generations

Three buckets stand in a ring: the current one takes what is new, the previous one still answers, and
the third is empty. A rotation makes the current bucket the previous one and the empty one the
current, and empties the one after it. What is looked up in the previous bucket by an offer moves on
to the current one.
-/

namespace Coap.Dedup

/-- Values by key, in three buckets that rotate. -/
structure Rotation (α : Type u) where
  /-- Time between two rotations. -/
  period : Duration
  /-- The buckets. -/
  buckets : Vector (OrderedMap Key α) 3
  /-- The bucket that takes what is new. -/
  current : Fin 3
  /-- The bucket that still answers; at first the same. -/
  previous : Fin 3

namespace Rotation

/-- Retains nothing. -/
def new (period : Duration) : Rotation α := ⟨period, .replicate 3 .empty, 0, 0⟩

/-- The bucket at a place in the ring. -/
def bucket (d : Rotation α) (i : Fin 3) : OrderedMap Key α := d.buckets[i]

/-- Replace the bucket at a place in the ring. -/
def setBucket (d : Rotation α) (i : Fin 3) (b : OrderedMap Key α) : Rotation α :=
  { d with buckets := d.buckets.set i b }

/-- What is retained for a key. -/
def find? (d : Rotation α) (key : Key) : Option α :=
  ((d.bucket d.current).get? key).or ((d.bucket d.previous).get? key)

/-- What is retained for a key, which then counts as current, or nothing, and then `value` is
retained from now on. -/
def offer (d : Rotation α) (key : Key) (value : α) : Rotation α × Option α :=
  let current := d.bucket d.current
  match current.get? key with
  | some found => (d, some found)
  | none =>
    let promoted := if d.previous = d.current then none else (d.bucket d.previous).get? key
    match promoted with
    | some found => (d.setBucket d.current (current.insert key found), some found)
    | none => (d.setBucket d.current (current.insert key value), none)

/-- Begin a new generation. -/
def rotate (d : Rotation α) : Rotation α :=
  let next := d.current + 1
  { d.setBucket (next + 1) .empty with previous := d.current, current := next }

/-- Change what is retained for a key. -/
def amend (d : Rotation α) (key : Key) (f : α → α) : Rotation α :=
  { d with buckets := d.buckets.map fun b => b.modify key f }

/-- Retain nothing. -/
def clear (d : Rotation α) : Rotation α := { d with buckets := .replicate 3 .empty }

/-- Number of keys for which something is retained. -/
def size (d : Rotation α) : Nat :=
  let current := d.bucket d.current
  if d.current = d.previous then current.size
  else
    current.size + (d.bucket d.previous).keys.countP fun key => !current.contains key

end Rotation

end Coap.Dedup
