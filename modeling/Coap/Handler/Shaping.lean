import Coap.Message.Summary

/-!
# Shaping responses

A handler may state once what its response says beside code and payload: where the resource it made
stands, how long the response may be kept, and its entity-tag. `Shaping.apply` adds these options to a
response that does not have them.
-/

namespace Coap

/-- Options for a response yet to come. -/
structure Shaping where
  /-- Path of a resource that was made. -/
  locationPath : Option String
  /-- Query of a resource that was made. -/
  locationQuery : Option String
  /-- Seconds for which the response may be kept. -/
  maxAge : UInt32
  /-- Entity-tag of the response. -/
  etag : Option Bytes
deriving DecidableEq, Repr

namespace Shaping

/-- Seconds for which a response may be kept that says nothing about it. -/
def standardAge : UInt32 := 60

/-- Nothing beyond what every response says. -/
def standard : Shaping := ⟨none, none, standardAge, none⟩

/-- Make the non-empty pieces of a text an option, unless the message has it. -/
def addPieces (n : OptionNumber) (sep : Char) (text : Option String) (m : Message) : Message :=
  match text with
  | none => m
  | some text =>
    if m.has n then m
    else { m with options := m.options.setSegments n (Text.pieces sep text) }

/-- Add the options that a response does not have. -/
def apply (s : Shaping) (m : Message) : Message :=
  let m := addPieces .locationPath '/' s.locationPath m
  let m := addPieces .locationQuery '&' s.locationQuery m
  let m := if s.maxAge = standardAge || m.has .maxAge then m else m.setUInt .maxAge s.maxAge
  match s.etag with
  | some tag => if m.has .etag then m else m.set .etag tag
  | none => m

/-- A value that may be missing, for people. -/
def optionText (text : α → String) : Option α → String
  | some a => "Some(" ++ text a ++ ")"
  | none => "None"

/-- The shaping for people. -/
def text (s : Shaping) : String :=
  "location_path: " ++ optionText Text.quoted s.locationPath ++ ", location_query: " ++
    optionText Text.quoted s.locationQuery ++ s!", max_age: {s.maxAge.toNat}, etag: " ++
    optionText Bytes.listText s.etag

end Shaping

end Coap
