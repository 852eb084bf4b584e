import Coap.Discovery.Link
import Coap.Text.Blank

/-!
# Filters on links

A query argument restricts the links that are listed: `key=value` asks that some value of the attribute
be the given one, or begin with what precedes a final star; a key alone asks that the attribute be
there. Quotes around the value do not count, and unknown keys restrict nothing.
-/

namespace Coap

/-- A restriction on links. -/
structure LinkFilter where
  /-- The attribute. -/
  key : String
  /-- What one of its values has to be. -/
  value : Option String
deriving DecidableEq, Repr

namespace LinkFilter

/-- The filter that a query argument stands for. -/
def ofArgument (argument : String) : LinkFilter :=
  match Text.splitOnce '=' argument with
  | some (key, value) =>
    ⟨key, some (String.ofList (Text.trimChars (· == '"') value.toList))⟩
  | none => ⟨argument, none⟩

/-- Is `actual` what the pattern asks for? -/
def valueMatches (pattern actual : String) : Bool :=
  if pattern.toList.getLast? = some '*' then pattern.toList.dropLast.isPrefixOf actual.toList
  else pattern == actual

/-- Is one of the values what the pattern asks for, or is there any, if nothing is asked for? -/
def anyMatches (pattern : Option String) (actual : List String) : Bool :=
  match pattern with
  | some p => actual.any (valueMatches p)
  | none => !actual.isEmpty

/-- The values of a link that a key is about; `none` for an unknown key. -/
def valuesOf? (key : String) (l : Link) : Option (List String) :=
  if key = "href" then some [l.href]
  else if key = "rt" then some l.attributes.resourceTypes
  else if key = "if" then some l.attributes.interfaces
  else if key = "title" then some l.attributes.title.toList
  else if key = "ct" then some (l.attributes.contentTypes.map fun ct => toString ct.toNat)
  else if key = "sz" then some (l.attributes.sizeHint.toList.map fun sz => toString sz.toNat)
  else none

/-- Does the link pass the filter? -/
def accepts (f : LinkFilter) (l : Link) : Bool :=
  if f.key = "obs" then l.observable = some true
  else
    match valuesOf? f.key l with
    | some values => anyMatches f.value values
    | none => true

end LinkFilter

/-- The links to the visible resources among those a walk found that pass all query arguments. -/
def Link.select (entries : List TreeEntry) (query : List String) : List Link :=
  let filters := query.map LinkFilter.ofArgument
  ((entries.filter (·.visible)).map Link.ofEntry).filter fun l => filters.all (·.accepts l)

end Coap
