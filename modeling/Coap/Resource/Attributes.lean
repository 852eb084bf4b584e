/-!
# Attributes of resources

What a resource says about itself when it is listed.
-/

namespace Coap

/-- What a resource says about itself. -/
structure Attributes where
  /-- A title for people. -/
  title : Option String
  /-- Kinds of the resource. -/
  resourceTypes : List String
  /-- Ways to talk to the resource. -/
  interfaces : List String
  /-- Greatest size of a representation. -/
  sizeHint : Option UInt64
  /-- Numbers of the content formats that the resource serves. -/
  contentTypes : List UInt16
deriving DecidableEq, Repr

namespace Attributes

/-- Nothing said. -/
def none : Attributes := ⟨.none, [], [], .none, []⟩

instance : Inhabited Attributes := ⟨none⟩

end Attributes

/-- What is fixed about a resource when it is added. -/
structure Profile where
  /-- Its name among its siblings. -/
  name : String
  /-- What it says about itself. -/
  attributes : Attributes
  /-- Does it accept observe relations? -/
  observable : Bool
  /-- Is it listed? -/
  visible : Bool
deriving DecidableEq, Repr, Inhabited

end Coap
