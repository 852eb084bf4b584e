/-!
# Splitting and joining at a separator

`Text.split` cuts a string at every occurrence of a separator, and `Text.splitOnce` at the first
one. Splitting never drops a piece, so an empty string has one empty piece; `Text.pieces` keeps
the non-empty pieces only.
-/

namespace Coap.Text

/-- Cut characters at every `sep`; there is one more piece than separators. -/
def splitChars (sep : Char) : List Char → List (List Char)
  | [] => [[]]
  | c :: cs =>
    if c = sep then [] :: splitChars sep cs
    else
      match splitChars sep cs with
      | [] => [[c]]
      | piece :: more => (c :: piece) :: more

/-- Cut a string at every `sep`. -/
def split (sep : Char) (s : String) : List String :=
  (splitChars sep s.toList).map String.ofList

/-- The non-empty pieces of a string between separators. -/
def pieces (sep : Char) (s : String) : List String :=
  (split sep s).filter fun piece => !piece.isEmpty

/-- What precedes and what follows the first `sep`. -/
def splitOnceChars (sep : Char) : List Char → Option (List Char × List Char)
  | [] => none
  | c :: cs => if c = sep then some ([], cs) else (splitOnceChars sep cs).map fun p => (c :: p.1, p.2)

/-- What precedes and what follows the first `sep` of a string. -/
def splitOnce (sep : Char) (s : String) : Option (String × String) :=
  (splitOnceChars sep s.toList).map fun p => (String.ofList p.1, String.ofList p.2)

/-- Pieces with a separator between any two. -/
def joinChars (sep : List Char) : List (List Char) → List Char
  | [] => []
  | [piece] => piece
  | piece :: more => piece ++ sep ++ joinChars sep more

/-- Pieces with a separator between any two. -/
def join (sep : String) (pieces : List String) : String :=
  String.ofList (joinChars sep.toList (pieces.map String.toList))

end Coap.Text
