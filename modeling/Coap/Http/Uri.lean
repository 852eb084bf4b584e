import Coap.Text.Split
import Coap.Text.Utf8

/-!
# Request targets of HTTP

The target of an HTTP request is read from the text of a URL: scheme, authority, path and query; a
fragment is left out. It is stricter about authorities than a URL is, and a text without an authority
behind its scheme is taken for an authority as a whole.
-/

namespace Coap.Http

/-- Why a text is no request target. -/
inductive UriError where
  /-- A character may not stand where it stands. -/
  | invalidCharacter
  /-- The authority is malformed. -/
  | invalidAuthority
  /-- There is nothing, or nothing behind the scheme. -/
  | empty
  /-- There is no authority where there has to be one. -/
  | invalidFormat
  /-- The text is too long. -/
  | tooLong
  /-- The scheme is too long. -/
  | schemeTooLong
deriving DecidableEq, Repr

/-- What went wrong, for people. -/
def UriError.message : UriError → String
  | .invalidCharacter => "invalid uri character"
  | .invalidAuthority => "invalid authority"
  | .empty => "empty string"
  | .invalidFormat => "invalid format"
  | .tooLong => "uri too long"
  | .schemeTooLong => "scheme too long"

/-- The target of a request. -/
structure Uri where
  /-- The scheme. -/
  scheme : Option String
  /-- User, host and port. -/
  authority : String
  /-- The path. -/
  path : String
  /-- What follows the question mark. -/
  query : Option String
deriving DecidableEq, Repr

namespace Uri

/-- The greatest length of a target in octets. -/
def maxLength : Nat := 65534

/-- The greatest length of a scheme. -/
def maxScheme : Nat := 64

/-- Has the character a place in an authority? -/
def isAuthorityChar (c : Char) : Bool :=
  c.isAlphanum || c ∈ ['!', '$', '&', '\'', '(', ')', '*', '+', ',', '-', '.', ':', ';', '=', '@', '[',
    ']', '_', '~', '%']

/-- May the character stand in a path? -/
def isPathChar (c : Char) : Bool := 0x21 ≤ c.toNat && c ∉ ['<', '>', '\x60', '\x7f']

/-- May the character stand in a query? -/
def isQueryChar (c : Char) : Bool := 0x21 ≤ c.toNat && c ∉ ['"', '<', '>', '\x7f']

/-- What a scan of an authority has seen: the colons, whether a bracket was opened and closed, whether
there was a percent sign, and whether the last character was an at sign. Colons and percent signs of a
user and of an address in brackets are forgotten. -/
structure Scan where
  /-- Number of colons since. -/
  colons : Nat
  /-- Was a bracket opened? -/
  opened : Bool
  /-- Was it closed? -/
  closed : Bool
  /-- Was there a percent sign since? -/
  percent : Bool
  /-- Is an at sign the last character? -/
  dangling : Bool

/-- Take in a character of an authority. -/
def Scan.step (s : Scan) (c : Char) : Except UriError Scan :=
  let s' := { s with dangling := false }
  if c = ':' then
    if 8 ≤ s.colons then .error .invalidAuthority else .ok { s' with colons := s.colons + 1 }
  else if c = '[' then
    if s.percent || s.opened then .error .invalidAuthority else .ok { s' with opened := true }
  else if c = ']' then
    if !s.opened || s.closed then .error .invalidAuthority
    else .ok { s' with closed := true, colons := 0, percent := false }
  else if c = '@' then .ok { s with colons := 0, percent := false, dangling := true }
  else if c = '%' then .ok { s' with percent := true }
  else if isAuthorityChar c then .ok s'
  else .error .invalidCharacter

/-- Is this a well-formed authority? -/
def checkAuthority (cs : List Char) : Except UriError Unit := do
  let s ← cs.foldlM Scan.step ⟨0, false, false, false, false⟩
  if s.opened != s.closed || 1 < s.colons || s.dangling || s.percent then throw .invalidAuthority

/-- The scheme, if the text begins with one and two slashes, and what follows. -/
def readScheme (cs : List Char) : Except UriError (Option String × List Char) :=
  match Text.splitOnceChars ':' cs with
  | some (scheme, '/' :: '/' :: rest) =>
    if scheme.all fun c => c.isAlphanum || c ∈ ['+', '-', '.'] then
      if maxScheme < scheme.length then .error .schemeTooLong
      else .ok (some (String.ofList scheme), rest)
    else .ok (none, cs)
  | _ => .ok (none, cs)

/-- Path and query, up to a fragment. -/
def readPath (cs : List Char) : Except UriError (String × Option String) := do
  let cs := cs.takeWhile (· ≠ '#')
  let path := cs.takeWhile (· ≠ '?')
  if !path.all isPathChar then throw .invalidCharacter
  let text := if path.isEmpty then "/" else String.ofList path
  match cs.drop path.length with
  | [] => return (text, none)
  | _ :: query =>
    if !query.all isQueryChar then throw .invalidCharacter
    return (text, some (String.ofList query))

/-- The request target that the text of an absolute URL stands for. -/
def ofText (s : String) : Except UriError Uri := do
  if maxLength < Text.byteLength s then throw .tooLong
  let (scheme, rest) ← readScheme s.toList
  if rest.isEmpty then throw .empty
  let authority := rest.takeWhile fun c => c ≠ '/' ∧ c ≠ '?' ∧ c ≠ '#'
  checkAuthority authority
  let behind := rest.drop authority.length
  match scheme with
  | none =>
    if !behind.isEmpty then throw .invalidFormat
    return ⟨none, String.ofList authority, "", none⟩
  | some scheme =>
    if authority.isEmpty then throw .invalidFormat
    let (path, query) ← readPath behind
    return ⟨some scheme, String.ofList authority, path, query⟩

/-- The target as text. -/
def text (u : Uri) : String :=
  let scheme := match u.scheme with
    | some s => s ++ "://"
    | none => ""
  let query := match u.query with
    | some q => "?" ++ q
    | none => ""
  scheme ++ u.authority ++ u.path ++ query

end Uri

end Coap.Http
