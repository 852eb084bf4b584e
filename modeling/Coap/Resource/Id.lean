/-!
# Resource ids

A resource is named by the slot that holds it and by the generation of that slot, which moves on each
time the slot is freed. So an id comes to name another resource only when the generations of a slot
have come full circle.
-/

namespace Coap

/-- The name of a resource: a slot and its generation. -/
structure ResourceId where
  /-- Position of the slot. -/
  index : Nat
  /-- Number of times the slot had been freed, in 64 bits. -/
  generation : UInt64
deriving DecidableEq, Repr, Inhabited

namespace ResourceId

/-- What ids are ordered by. -/
def sortKey (id : ResourceId) : List Nat := [id.index, id.generation.toNat]

instance : Ord ResourceId := ⟨compareOn sortKey⟩

instance : Std.TransOrd ResourceId := inferInstanceAs (Std.TransCmp (compareOn sortKey))

instance : Std.LawfulEqOrd ResourceId where
  eq_of_compare {a b} h := by
    have h : a.sortKey = b.sortKey := Std.LawfulEqOrd.eq_of_compare h
    cases a; cases b; simp_all [sortKey, UInt64.toNat_inj]

/-- The id as `index.generation`. -/
def text (id : ResourceId) : String := s!"{id.index}.{id.generation}"

end ResourceId

end Coap
