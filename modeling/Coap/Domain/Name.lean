import Coap.Domain.Composition
import Coap.Domain.Direction
import Coap.Domain.Mapping
import Coap.Domain.Punycode
import Coap.Text.Split

/-!
# Domain names in any script

A domain name is written in ASCII: of its characters, those count that stand for all their forms, and a
label with others than ASCII is coded behind a mark.

* `Domain.toAscii?` — the written form, if it is a name.
-/

namespace Coap.Domain

open Punycode (isAscii)

/-- What stands before the code of a label. -/
def codeMark : List Char := ['x', 'n', '-', '-']

/-- Is the label coded? -/
def isCoded (label : List Char) : Bool := label.take codeMark.length == codeMark

/-- No code is longer. -/
def maxCode : Nat := 2000

/-- No label is longer whose code is to be found. -/
def maxLabel : Nat := 1000

/-- A label with its characters as they count. -/
def mapLabel? (label : List Char) : Option (List Char) :=
  (label.mapM map?).map fun parts => canonical parts.flatten

/-- The label that a code stands for. Only one that counts as itself has a code, and not one in ASCII. -/
def ofCode? (code : List Char) : Option (List Char) := do
  if code.isEmpty || code.getLast? == some '-' || maxCode < code.length then none
  let label ← Punycode.decode? code
  if mapLabel? label = some label then some label else none

/-- The label that is meant by one that may be coded. -/
def meaning? (label : List Char) : Option (List Char) :=
  if isCoded label then ofCode? (label.drop codeMark.length)
  else if label.all isAscii || label.length ≤ maxLabel then some label
  else none

/-- Does the label begin with another character than a mark, and do its joiners show? -/
def isLabel (label : List Char) : Bool := !(label.head?.any isMark) && joinersShow [] label

/-- A label in ASCII. -/
def write (label : List Char) : List Char :=
  if label.all isAscii then label else codeMark ++ Punycode.encode label

/-- The name of some labels. -/
def join (labels : List (List Char)) : List Char := Text.joinChars ['.'] labels

/-- The written form of a name. One in ASCII without codes changes its case only. -/
def toAscii? (cs : List Char) : Option (List Char) := do
  let lower := cs.map Char.toLower
  if cs.all isAscii && !(Text.splitChars '.' lower).any isCoded then some lower
  else
    -- a character may count as a full stop, so that there can be more labels than before
    let labels := Text.splitChars '.' (join (← (Text.splitChars '.' cs).mapM mapLabel?))
    let meant ← labels.mapM meaning?
    if !meant.all isLabel then none
    else if meant.any isRightward && !meant.all fun label => hasDirection (label.map direction) then none
    else some (join (labels.map write))

end Coap.Domain
