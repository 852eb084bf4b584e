import Coap.Duration

/-!
# Configuration

Transmission parameters, and how long exchanges are kept to tell duplicates.

* `Transmission.maxSpan?` — the time from the first transmission of a message to its last.
* `Config.exchangeLifetime?` — the time for which the id of an exchange must not be used again.

Both are absent where the arithmetic leaves the range of durations.
-/

namespace Coap

/-- Transmission parameters of confirmable messages. -/
structure Transmission where
  /-- Time until the first retransmission. -/
  ackTimeout : Duration
  /-- Factor by which that time may vary. -/
  ackRandomFactor : Float32
  /-- Number of retransmissions. -/
  maxRetransmit : Nat
  /-- Longest time a datagram is under way. -/
  maxLatency : Duration
  /-- Time a node takes to acknowledge. -/
  processingDelay : Duration

/-- How the deduplicator forgets. -/
inductive DedupStrategy where
  /-- Each exchange ages on its own. -/
  | sweep
  /-- Exchanges age by generations. -/
  | rotation
deriving DecidableEq, Repr

/-- What a server can be told. -/
structure Config where
  /-- Transmission parameters. -/
  transmission : Transmission
  /-- How duplicates are forgotten. -/
  strategy : DedupStrategy
  /-- Time between two sweeps. -/
  sweepInterval : Duration
  /-- Time between two rotations, if it is not the exchange lifetime. -/
  rotationOverride : Option Duration
  /-- Time within which an origin has to answer over CoAP. -/
  coapTimeout : Duration
  /-- Time within which an origin has to answer over HTTP. -/
  httpTimeout : Duration
  /-- Exchange lifetime, if it is not derived from the transmission parameters. -/
  lifetimeOverride : Option Duration
  /-- Time for which a duplicate waits for what its request gets. -/
  duplicateWait : Duration
  /-- Port of the endpoint that a server without endpoints opens. -/
  defaultPort : UInt16

/-- The transmission parameters of the protocol. -/
def Transmission.standard : Transmission where
  ackTimeout := .ofSeconds 2
  ackRandomFactor := 1.5
  maxRetransmit := 4
  maxLatency := .ofSeconds 100
  processingDelay := .ofSeconds 2

/-- Number of timeouts in a row before a transmission is given up, in 32 bits. -/
def Transmission.attempts (t : Transmission) : Nat :=
  (if t.maxRetransmit < 32 then 1 <<< t.maxRetransmit else UInt32.size - 1) - 1

/-- Time from the first transmission of a message to its last. The factor is worked out in 32-bit
floating-point numbers. -/
def Transmission.maxSpan? (t : Transmission) : Option Duration :=
  t.ackTimeout.scaleFloat? (t.attempts.toUInt64.toFloat32 * t.ackRandomFactor)

namespace Config

/-- What holds unless told otherwise. -/
def standard : Config where
  transmission := .standard
  strategy := .sweep
  sweepInterval := .ofSeconds 10
  rotationOverride := none
  coapTimeout := .ofSeconds 45
  httpTimeout := .ofSeconds 30
  lifetimeOverride := none
  duplicateWait := .ofSeconds 5
  defaultPort := 5683

/-- Time for which an exchange is kept: the longest transmission, the way there and back, and the
time to answer. -/
def exchangeLifetime? (c : Config) : Option Duration :=
  match c.lifetimeOverride with
  | some lifetime => some lifetime
  | none => do
    let span ← c.transmission.maxSpan?
    let ways ← Duration.scale? 2 c.transmission.maxLatency
    (← span.add? ways).add? c.transmission.processingDelay

/-- Time between two rotations. -/
def rotationPeriod? (c : Config) : Option Duration :=
  match c.rotationOverride with
  | some period => some period
  | none => c.exchangeLifetime?

end Config

end Coap
