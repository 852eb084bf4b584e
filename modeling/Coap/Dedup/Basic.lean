import Coap.Config
import Coap.Dedup.Rotation
import Coap.Dedup.Sweep

/-!
# Deduplicators

A deduplicator retains the exchanges of recent requests, so that a repeated request finds the
exchange of the first one. A worker makes it forget while it runs; stopping it forgets everything.
-/

namespace Coap

/-- How values are retained, and for how long. -/
inductive Retention (α : Type u) where
  /-- Each value for a lifetime of its own. -/
  | sweep (d : Dedup.Sweep α)
  /-- By generations. -/
  | rotation (d : Dedup.Rotation α)

/-- Retained values and the worker that drops them. -/
structure Deduplicator (α : Type u) where
  /-- What is retained. -/
  retention : Retention α
  /-- Does the worker run? -/
  running : Bool

namespace Deduplicator

/-- A deduplicator that drops by age. -/
def sweeping (lifetime interval : Duration) : Deduplicator α :=
  ⟨.sweep (.new lifetime interval), false⟩

/-- A deduplicator that drops by generations. -/
def rotating (period : Duration) : Deduplicator α := ⟨.rotation (.new period), false⟩

/-- The deduplicator that a configuration asks for. -/
def ofConfig? (c : Config) : Option (Deduplicator α) :=
  match c.strategy with
  | .sweep => c.exchangeLifetime?.map fun lifetime => sweeping lifetime c.sweepInterval
  | .rotation => c.rotationPeriod?.map rotating

/-- What is retained for a key. -/
def find? (d : Deduplicator α) (key : Key) : Option α :=
  match d.retention with
  | .sweep s => s.find? key
  | .rotation r => r.find? key

/-- What is retained for a key, or nothing, and then `value` is retained from now on. -/
def offer (d : Deduplicator α) (key : Key) (value : α) (created : Instant) :
    Deduplicator α × Option α :=
  match d.retention with
  | .sweep s => let r := s.offer key value created; ({ d with retention := .sweep r.1 }, r.2)
  | .rotation s => let r := s.offer key value; ({ d with retention := .rotation r.1 }, r.2)

/-- Change what is retained for a key. -/
def amend (d : Deduplicator α) (key : Key) (f : α → α) : Deduplicator α :=
  match d.retention with
  | .sweep s => { d with retention := .sweep (s.amend key f) }
  | .rotation r => { d with retention := .rotation (r.amend key f) }

/-- Retain nothing. -/
def clear (d : Deduplicator α) : Deduplicator α :=
  match d.retention with
  | .sweep s => { d with retention := .sweep s.clear }
  | .rotation r => { d with retention := .rotation r.clear }

/-- Number of keys for which something is retained. -/
def size (d : Deduplicator α) : Nat :=
  match d.retention with
  | .sweep s => s.size
  | .rotation r => r.size

/-- Let the worker run. -/
def start (d : Deduplicator α) : Deduplicator α := { d with running := true }

/-- Stop the worker and retain nothing. -/
def stop (d : Deduplicator α) : Deduplicator α := { d.clear with running := false }

/-- What the worker does each time its period is over. -/
def tick (d : Deduplicator α) (now : Instant) : Deduplicator α :=
  match d.retention with
  | .sweep s => { d with retention := .sweep (s.sweep now) }
  | .rotation r => { d with retention := .rotation r.rotate }

/-- Time between two ticks of the worker. -/
def period (d : Deduplicator α) : Duration :=
  match d.retention with
  | .sweep s => s.interval
  | .rotation r => r.period

/-- Time after which a value that nobody asks for is certainly dropped by the worker. -/
def horizon (d : Deduplicator α) : Duration :=
  match d.retention with
  | .sweep s => ⟨s.lifetime.nanos + s.interval.nanos + 1⟩
  | .rotation r => ⟨2 * r.period.nanos⟩

/-- What is left when the worker has run for so long that nothing is retained, and the time then. -/
def drain (d : Deduplicator α) (now : Instant) : Deduplicator α × Instant :=
  let now := now + d.horizon.nanos
  ((d.start.tick now).tick now, now)

/-- Drop what is too old; only a deduplicator that drops by age has anything to drop. -/
def sweep (d : Deduplicator α) (now : Instant) : Deduplicator α × Nat :=
  match d.retention with
  | .sweep s => ({ d with retention := .sweep (s.sweep now) }, s.sweepCount now)
  | .rotation _ => (d, 0)

/-- Begin a new generation, in a deduplicator that has generations. -/
def rotate (d : Deduplicator α) : Deduplicator α :=
  match d.retention with
  | .sweep _ => d
  | .rotation r => { d with retention := .rotation r.rotate }

end Deduplicator

end Coap
