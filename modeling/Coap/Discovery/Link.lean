import Coap.Cbor
import Coap.Json
import Coap.Tree.Basic

/-!
# Links

A link describes a resource to others: its path, its attributes, and whether it can be observed. Links
are written in three ways, as a link-format document, as JSON and as CBOR; each says only what there is
to say, in one order.
-/

namespace Coap

/-- A description of a resource. -/
structure Link where
  /-- The path. -/
  href : String
  /-- What the resource says about itself. -/
  attributes : Attributes
  /-- Can it be observed? If nothing is known, nothing is said. -/
  observable : Option Bool
deriving DecidableEq, Repr

namespace Link

/-- The link to a resource that a walk found. -/
def ofEntry (e : TreeEntry) : Link :=
  ⟨e.path, e.attributes, if e.observable then some true else none⟩

/-! ## Link format -/

/-- Values in one pair of quotes. -/
def quotedValues (values : List String) : String := "\"" ++ Text.join " " values ++ "\""

/-- A link with its parameters. Texts stand between quotes as they are. -/
def text (l : Link) : String :=
  let a := l.attributes
  let title := match a.title with
    | some t => ";title=\"" ++ t ++ "\""
    | none => ""
  let types := if a.resourceTypes.isEmpty then "" else ";rt=" ++ quotedValues a.resourceTypes
  let interfaces := if a.interfaces.isEmpty then "" else ";if=" ++ quotedValues a.interfaces
  let size := match a.sizeHint with
    | some n => ";sz=" ++ toString n.toNat
    | none => ""
  let contents := match a.contentTypes with
    | [] => ""
    | [ct] => ";ct=" ++ toString ct.toNat
    | cts => ";ct=" ++ quotedValues (cts.map fun ct => toString ct.toNat)
  let observable := if l.observable = some true then ";obs" else ""
  "<" ++ l.href ++ ">" ++ title ++ types ++ interfaces ++ size ++ contents ++ observable

/-- The link-format document of some links. -/
def document (links : List Link) : String := Text.join "," (links.map text)

/-! ## JSON and CBOR -/

/-- A value in a description. -/
inductive Value where
  /-- A text. -/
  | text (s : String)
  /-- Texts. -/
  | texts (l : List String)
  /-- A number. -/
  | number (n : UInt64)
  /-- Numbers. -/
  | numbers (l : List UInt16)
  /-- A yes or no. -/
  | flag (b : Bool)

/-- What a link says, by name. -/
def members (l : Link) : List (String × Value) :=
  let a := l.attributes
  [("href", .text l.href)] ++
    (a.title.map fun t => ("title", .text t)).toList ++
    (if a.resourceTypes.isEmpty then [] else [("rt", .texts a.resourceTypes)]) ++
    (if a.interfaces.isEmpty then [] else [("if", .texts a.interfaces)]) ++
    (a.sizeHint.map fun n => ("sz", .number n)).toList ++
    (if a.contentTypes.isEmpty then [] else [("ct", .numbers a.contentTypes)]) ++
    (l.observable.map fun b => ("obs", .flag b)).toList

/-- A value as JSON. -/
def Value.json : Value → Json
  | .text s => .string s
  | .texts l => .array (l.map .string)
  | .number n => .integer n.toNat
  | .numbers l => .array (l.map fun n => .integer n.toNat)
  | .flag b => .bool b

/-- A value as CBOR. -/
def Value.cbor : Value → Cbor
  | .text s => .text s
  | .texts l => .array (l.map .text)
  | .number n => .unsigned n
  | .numbers l => .array (l.map fun n => .unsigned n.toUInt64)
  | .flag b => .bool b

/-- Some links as JSON. -/
def json (links : List Link) : Json :=
  .array (links.map fun l => .object (l.members.map fun m => (m.1, m.2.json)))

/-- Some links as CBOR. -/
def cbor (links : List Link) : Cbor :=
  .array (links.map fun l => .openMap (l.members.map fun m => (m.1, m.2.cbor)))

end Link

end Coap
