import Coap.Code

/-!
# Request methods

The method of a request is its code. The seven registered methods have names; any other request
code is carried along and written as `c.dd`.
-/

namespace Coap

/-- The method of a request. -/
structure Method where
  /-- The request code. -/
  code : Code
deriving DecidableEq, Repr, Inhabited

namespace Method

def get : Method := ⟨.get⟩
def post : Method := ⟨.post⟩
def put : Method := ⟨.put⟩
def delete : Method := ⟨.delete⟩
def fetch : Method := ⟨.fetch⟩
def patch : Method := ⟨.patch⟩
def ipatch : Method := ⟨.ipatch⟩

/-- The registered methods with their names. -/
def registered : List (Method × String) :=
  [(get, "GET"), (post, "POST"), (put, "PUT"), (delete, "DELETE"), (fetch, "FETCH"),
    (patch, "PATCH"), (ipatch, "iPATCH")]

/-- The registered method with a given code. -/
def ofCode? (code : Code) : Option Method :=
  (registered.map (·.1)).find? fun m => m.code = code

/-- The name of the method, or its code where it has none. -/
def text (m : Method) : String :=
  match registered.find? fun entry => entry.1 = m with
  | some entry => entry.2
  | none => m.code.text

end Method

end Coap
