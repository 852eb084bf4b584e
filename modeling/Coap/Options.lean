import Coap.OrderedMap
import Coap.OptionNumber
import Coap.OptionValue

/-!
# Options

The options of a message: for each number the list of its values, in the order in which they were
given. A number may be present without values; it is then lost on the wire.

* `Options.instances` — the single options in wire order, and `Options.ofInstances`, which collects
  them again.
* `Options.HasValues` — no number is present without values.
-/

namespace Coap

/-- Values by option number. -/
abbrev Options := OrderedMap OptionNumber (List Bytes)

namespace Options

/-- The values of an option, none if it is absent. -/
def valuesOf (options : Options) (n : OptionNumber) : List Bytes := (options.get? n).getD []

/-- The first value of an option. -/
def first? (options : Options) (n : OptionNumber) : Option Bytes := (options.valuesOf n).head?

/-- Append a value to those of an option. -/
def add (options : Options) (n : OptionNumber) (value : Bytes) : Options :=
  options.alter n fun values => some (values.getD [] ++ [value])

/-- Put a value before those of an option. -/
def addFront (options : Options) (n : OptionNumber) (value : Bytes) : Options :=
  options.alter n fun values => some (value :: values.getD [])

/-- Append values to those of an option; the option is present afterwards even if there are none. -/
def addAll (options : Options) (n : OptionNumber) (values : List Bytes) : Options :=
  options.alter n fun old => some (old.getD [] ++ values)

/-- Make `value` the only value of an option. -/
def set (options : Options) (n : OptionNumber) (value : Bytes) : Options :=
  options.insert n [value]

/-- Make the given segments the values of an option, which is absent if there are none. -/
def setSegments (options : Options) (n : OptionNumber) (segments : List String) : Options :=
  if segments.isEmpty then options.erase n else options.insert n (segments.map Text.bytes)

/-- The single options in wire order. -/
def instances (options : Options) : List (OptionNumber × Bytes) :=
  options.entries.flatMap fun entry => entry.2.map fun value => (entry.1, value)

/-- Collect single options; values of one number keep their order. -/
def ofInstances (instances : List (OptionNumber × Bytes)) : Options :=
  instances.foldr (fun i acc => acc.addFront i.1 i.2) .empty

/-- No number is present without values. -/
def HasValues (options : Options) : Prop := ∀ entry ∈ options.entries, entry.2 ≠ []

instance (options : Options) : Decidable options.HasValues :=
  inferInstanceAs (Decidable (∀ entry ∈ options.entries, entry.2 ≠ []))

/-- Leave out the numbers without values. -/
def dropEmpty (options : Options) : Options := options.filter fun _ values => !values.isEmpty

end Options

end Coap
