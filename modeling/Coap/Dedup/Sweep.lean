import Coap.Duration
import Coap.Key
import Coap.OrderedMap
import Coap.Stamped

/-!
# Retention by age

Each retained value has the time at which it arose; a sweep drops those older than the lifetime.
-/

namespace Coap.Dedup

/-- Values by key, each for a lifetime of its own. -/
structure Sweep (α : Type u) where
  /-- Age at which a value is not yet dropped. -/
  lifetime : Duration
  /-- Time between two sweeps. -/
  interval : Duration
  /-- What is retained, with the times at which it arose. -/
  retained : OrderedMap Key (Stamped α)

namespace Sweep

/-- Retains nothing. -/
def new (lifetime interval : Duration) : Sweep α := ⟨lifetime, interval, .empty⟩

/-- What is retained for a key. -/
def find? (d : Sweep α) (key : Key) : Option α := (d.retained.get? key).map (·.data)

/-- What is retained for a key, or nothing, and then `value` is retained from now on. -/
def offer (d : Sweep α) (key : Key) (value : α) (created : Instant) : Sweep α × Option α :=
  match d.retained.get? key with
  | some previous => (d, some previous.data)
  | none => ({ d with retained := d.retained.insert key ⟨value, created⟩ }, none)

/-- Is a value that arose at `created` too old? -/
def isExpired (d : Sweep α) (now created : Instant) : Bool := d.lifetime.nanos < now - created

/-- Drop what is too old. -/
def sweep (d : Sweep α) (now : Instant) : Sweep α :=
  { d with retained := d.retained.filter fun _ v => !d.isExpired now v.time }

/-- Number of values that a sweep drops. -/
def sweepCount (d : Sweep α) (now : Instant) : Nat :=
  d.retained.size - (d.sweep now).retained.size

/-- Change what is retained for a key. -/
def amend (d : Sweep α) (key : Key) (f : α → α) : Sweep α :=
  { d with retained := d.retained.modify key fun v => ⟨f v.data, v.time⟩ }

/-- Retain nothing. -/
def clear (d : Sweep α) : Sweep α := { d with retained := .empty }

/-- Number of values retained. -/
def size (d : Sweep α) : Nat := d.retained.size

end Sweep

end Coap.Dedup
