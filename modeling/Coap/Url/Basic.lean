import Coap.Url.Host

/-!
# URLs

A URL has a scheme, then perhaps an authority, a path, and perhaps a query and a fragment. All parts
are held as they are written, that is percent-encoded.
-/

namespace Coap

/-- Who serves a URL: user, host and port. -/
structure Authority where
  /-- The name of the user. -/
  username : String
  /-- The user's password. -/
  password : Option String
  /-- The host; some schemes can do without. -/
  host : Option Host
  /-- The port, unless it is the one that the scheme implies. -/
  port : Option UInt16
deriving DecidableEq, Repr

/-- The path of a URL. -/
inductive UrlPath where
  /-- A text that is no path from a root. -/
  | rootless (text : String)
  /-- Segments, each behind a slash. -/
  | segments (names : List String)
deriving DecidableEq, Repr

/-- A URL. -/
structure Url where
  /-- The scheme, in lower case. -/
  scheme : String
  /-- Who serves it. -/
  authority : Option Authority
  /-- The path. -/
  path : UrlPath
  /-- What follows the question mark. -/
  query : Option String
  /-- What follows the hash. -/
  fragment : Option String
deriving DecidableEq, Repr

/-- The path as text. -/
def UrlPath.text : UrlPath → String
  | .rootless text => text
  | .segments names => String.join (names.map ("/" ++ ·))

/-- User, host and port as text. -/
def Authority.text (a : Authority) : String :=
  let password := match a.password with
    | some p => ":" ++ p
    | none => ""
  let user := a.username ++ password
  let port := match a.port with
    | some p => ":" ++ toString p.toNat
    | none => ""
  (if user.isEmpty then "" else user ++ "@") ++ (a.host.map Host.text).getD "" ++ port

namespace Url

/-- The host. -/
def host? (u : Url) : Option Host := u.authority.bind (·.host)

/-- The port, unless it is the one that the scheme implies. -/
def port? (u : Url) : Option UInt16 := u.authority.bind (·.port)

/-- What follows the scheme up to the path. Where there is no authority, a path that begins with two
slashes is kept from looking like one. -/
def authorityText (u : Url) : String :=
  match u.authority, u.path with
  | some a, _ => "//" ++ a.text
  | none, .segments ("" :: _ :: _) => "/."
  | none, _ => ""

/-- The whole URL. -/
def text (u : Url) : String :=
  let query := match u.query with
    | some q => "?" ++ q
    | none => ""
  let fragment := match u.fragment with
    | some f => "#" ++ f
    | none => ""
  u.scheme ++ ":" ++ u.authorityText ++ u.path.text ++ query ++ fragment

end Url

end Coap
