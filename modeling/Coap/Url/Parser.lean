import Coap.Text.Blank
import Coap.Url.Basic

/-!
# Reading URLs

`Url.ofText` reads an absolute URL. Blanks and control characters around it and tabs and line ends
within it do not count. Six schemes are special: their URLs always have a path, take backslashes for
slashes, and read names of hosts as domain names; `file` stands a little apart among these. In all
other schemes a text that begins with two slashes has an authority, one that begins with one slash is a
path, and any other is left alone.

* `Trail.follow` — the segments of a path, with those of one and two dots worked in.
* `Url.readAuthority`, `Url.readFile`, `Url.readOther` — what follows the scheme, up to the query.
-/

namespace Coap.Url

/-! ## Characters that do not count -/

/-- Blanks and control characters, which do not count around a URL. -/
def isMargin (c : Char) : Bool := c.toNat ≤ 0x20

/-- Tabs and line ends, which do not count within a URL. -/
def isBreak (c : Char) : Bool := c == '\t' || c == '\n' || c == '\r'

/-- The characters that count within a URL. -/
def visible (cs : List Char) : List Char := cs.filter fun c => !isBreak c

/-! ## Schemes -/

/-- The special schemes and the ports that they imply. -/
def special : List (String × Option UInt16) :=
  [("http", some 80), ("https", some 443), ("ws", some 80), ("wss", some 443), ("ftp", some 21),
    ("file", none)]

/-- Is the scheme a special one? -/
def isSpecial (scheme : String) : Bool := special.any fun entry => entry.1 = scheme

/-- The port that a scheme implies. -/
def impliedPort? (scheme : String) : Option UInt16 :=
  (special.find? fun entry => entry.1 = scheme).bind (·.2)

/-- May the character stand in a scheme? -/
def isSchemeChar (c : Char) : Bool := c.isAlphanum || c == '+' || c == '-' || c == '.'

/-- The scheme, in lower case, and what follows its colon. -/
def readScheme (cs : List Char) : Option (String × List Char) := do
  let (name, rest) ← Text.splitOnceChars ':' cs
  match visible name with
  | [] => none
  | first :: more =>
    if first.isAlpha && more.all isSchemeChar then
      some (String.ofList ((first :: more).map Char.toLower), rest)
    else none

/-! ## Paths -/

/-- What a segment says about its place. -/
inductive Step where
  /-- Stay where you are: one dot. -/
  | stay
  /-- Go up: two dots. -/
  | up
  /-- Go down to what the segment names. -/
  | down

/-- Read a segment; a dot may be encoded. -/
def Step.ofSegment (segment : List Char) : Step :=
  let lower := String.ofList (segment.map Char.toLower)
  if lower ∈ [".", "%2e"] then .stay
  else if lower ∈ ["..", ".%2e", "%2e.", "%2e%2e"] then .up
  else .down

/-! ### Drives -/

/-- Does a colon, or a bar in place of it, mark a drive? -/
def isDriveMark (c : Char) : Bool := c == ':' || c == '|'

/-- Is this the name of a drive: a letter and its mark? -/
def isDrive (cs : List Char) : Bool :=
  match cs with
  | [letter, mark] => letter.isAlpha && isDriveMark mark
  | _ => false

/-- Does a segment name a drive, at least up to its first backslash? -/
def holdsDrive (cs : List Char) : Bool := isDrive (cs.takeWhile (· != '\\'))

/-- A drive under its name with a colon, and what stands behind it in the same segment if a break sets
the two apart. -/
def driveBeforeBreak? (segment : List Char) : Option (List Char × List Char) :=
  match segment.dropWhile isBreak with
  | [] => none
  | letter :: marked =>
    match marked.dropWhile isBreak with
    | ':' :: gap :: rest =>
      if letter.isAlpha && isBreak gap && !(visible rest).isEmpty then some ([letter, ':'], rest) else none
    | _ => none

/-! ### Segments -/

/-- A segment with what must not stand in a path encoded. -/
def encodeSegment (segment : List Char) : String :=
  String.ofList (Percent.encode Percent.path (visible segment))

/-- Where the segments of a path lead to. -/
structure Trail where
  /-- The segments that are left after all steps up, the last one first. -/
  inward : List String
  /-- Did the path of a file begin with a drive that stands alone in its segment? -/
  drive : Bool
deriving Repr, Inhabited

/-- The trail that leads nowhere yet. -/
def Trail.start : Trail := ⟨[], false⟩

/-- The segments that are left, in the order of the path. -/
def Trail.names (t : Trail) : List String := t.inward.reverse

/-- Go up. Drives are never left upwards. -/
def Trail.up (t : Trail) : Trail :=
  match t.inward with
  | name :: outer => if holdsDrive name.toList then t else { t with inward := outer }
  | [] => t

/-- Go down to a segment. -/
def Trail.down (t : Trail) (name : String) : Trail := { t with inward := name :: t.inward }

/-- Go down to what a segment names. The path of a file may begin with a drive, whose mark is then
always a colon. -/
def Trail.enter (file : Bool) (t : Trail) (segment : List Char) : Trail :=
  let plain := t.down (encodeSegment segment)
  if file && t.inward.isEmpty then
    match visible segment with
    | [letter, mark] =>
      if letter.isAlpha && isDriveMark mark then ⟨[String.ofList [letter, ':']], true⟩ else plain
    | _ =>
      match driveBeforeBreak? segment with
      | some (name, rest) => (t.down (String.ofList name)).down (encodeSegment rest)
      | none => plain
  else plain

/-- Take a step for every segment. After dots at the end there is an empty segment. -/
def Trail.follow (file : Bool) (t : Trail) : List (List Char) → Trail
  | [] => t
  | segment :: more =>
    let arrive (t : Trail) := if more.isEmpty then t.down "" else t
    match Step.ofSegment (visible segment) with
    | .stay => (arrive t).follow file more
    | .up => (arrive t.up).follow file more
    | .down => (t.enter file segment).follow file more

/-- Cut at every slash and, in special schemes, at every backslash. -/
def cutSegments (backslash : Bool) (cs : List Char) : List (List Char) :=
  Text.splitChars '/' (if backslash then cs.map fun c => if c == '\\' then '/' else c else cs)

/-- The segments of a path whose leading slash was taken off. -/
def segments (backslash : Bool) (cs : List Char) : List String :=
  (Trail.start.follow false (cutSegments backslash cs)).names

/-- Is this a slash, or a backslash that counts as one? -/
def isSlash (backslash : Bool) (c : Char) : Bool := c == '/' || (backslash && c == '\\')

/-- What follows a leading slash, if there is one. -/
def afterSlash? (backslash : Bool) (cs : List Char) : Option (List Char) :=
  match cs.dropWhile isBreak with
  | c :: rest => if isSlash backslash c then some rest else none
  | [] => none

/-- Take off a leading slash. -/
def dropSlash (backslash : Bool) (cs : List Char) : List Char := (afterSlash? backslash cs).getD cs

/-! ## Authorities -/

/-- What precedes and what follows the last `sep`. -/
def splitLast (sep : Char) (cs : List Char) : Option (List Char × List Char) :=
  (Text.splitOnceChars sep cs.reverse).map fun p => (p.2.reverse, p.1.reverse)

/-- User name and password, with what must not stand there encoded. -/
def readUser (cs : List Char) : String × Option String :=
  let encode (part : List Char) := String.ofList (Percent.encode Percent.userinfo part)
  match Text.splitOnceChars ':' cs with
  | some (name, []) => (encode name, none)
  | some (name, password) => (encode name, some (encode password))
  | none => (encode cs, none)

/-- The host, up to a colon outside brackets, and what follows it. -/
def splitHost (inside : Bool) : List Char → List Char × List Char
  | [] => ([], [])
  | c :: rest =>
    if c = ':' && !inside then ([], c :: rest)
    else
      let p := splitHost (if c = '[' then true else if c = ']' then false else inside) rest
      (c :: p.1, p.2)

/-- The number that leading digits stand for, if it has 16 bits, and what follows them. -/
def readPort (cs : List Char) : Except UrlError (Option UInt16 × List Char) :=
  let digits := cs.takeWhile Char.isDigit
  let rest := cs.dropWhile Char.isDigit
  let value := digits.foldl (fun n c => n * 10 + (c.toNat - 0x30)) 0
  if 65535 < value then .error .invalidPort
  else
    match rest with
    | [] => .ok (if digits.isEmpty then none else some value.toUInt16, [])
    | c :: _ =>
      if c = '/' ∨ c = '\\' then .ok (if digits.isEmpty then none else some value.toUInt16, rest)
      else .error .invalidPort

/-- Who serves the URL, and the path behind it. `more` says whether a query or a fragment follows:
before it, or before a path, an empty user needs a host. -/
def readAuthority (scheme : String) (more : Bool) (cs : List Char) :
    Except UrlError (Authority × List Char) := do
  let backslash := isSpecial scheme
  let span := cs.takeWhile fun c => !isSlash backslash c
  let path := cs.drop span.length
  let (user, place) := (splitLast '@' span).getD ([], span)
  if user.isEmpty && place.length < span.length && place.isEmpty && (more || !path.isEmpty) then
    throw .emptyHost
  let (username, password) := readUser user
  let (hostChars, rest) := splitHost false place
  if backslash && hostChars.isEmpty then throw .emptyHost
  let host ← if backslash then Host.ofSpecial hostChars else Host.ofOther hostChars
  let host := if hostChars.isEmpty then none else some host
  match rest with
  | ':' :: digits => do
    if host.isNone then throw .emptyHost
    let (port, behind) ← readPort digits
    let port := if port = impliedPort? scheme then none else port
    return (⟨username, password, host, port⟩, behind ++ path)
  | _ =>
    if host.isNone && (!username.isEmpty || password.isSome) then throw .emptyHost
    return (⟨username, password, host, none⟩, path)

/-! ## What follows the scheme -/

/-- The path behind an authority. -/
def pathBehind (scheme : String) (cs : List Char) : UrlPath :=
  if isSpecial scheme then .segments (segments true (dropSlash true cs))
  else if cs.isEmpty then .segments []
  else .segments (segments false (dropSlash false cs))

/-- Authority and path in a special scheme other than `file`: all leading slashes are passed over. -/
def readSpecial (scheme : String) (more : Bool) (cs : List Char) :
    Except UrlError (Option Authority × UrlPath) := do
  let (authority, path) ← readAuthority scheme more (cs.dropWhile (isSlash true))
  return (some authority, pathBehind scheme path)

/-- Authority and path in any scheme that is not special. -/
def readOther (scheme : String) (more : Bool) (cs : List Char) :
    Except UrlError (Option Authority × UrlPath) :=
  match cs with
  | '/' :: '/' :: rest => do
    let (authority, path) ← readAuthority scheme more rest
    return (some authority, pathBehind scheme path)
  | '/' :: path => .ok (none, .segments (segments false path))
  | text => .ok (none, .rootless (String.ofList (Percent.encode Percent.controls text)))

/-! ### Files -/

/-- The path of a file without the empty segments at its beginning, and whether it began with a drive
that stands alone in its segment. -/
def filePath (cs : List Char) : List String × Bool :=
  let t := Trail.start.follow true (cutSegments true cs)
  match t.names.dropWhile (·.isEmpty) with
  | [] => ([""], t.drive)
  | names => (names, t.drive)

/-- Authority and path in the scheme `file`, read with the breaks in it. A host stands behind two
slashes; a drive is none, the local one counts as none, and so does any before a path that begins with a
drive. -/
def readFile (cs : List Char) : Except UrlError (Option Authority × UrlPath) :=
  let served (host : Option Host) (path : List String × Bool) : Option Authority × UrlPath :=
    (some ⟨"", none, host, none⟩, .segments path.1)
  match afterSlash? true cs with
  | none => .ok (served none (filePath cs))
  | some path =>
    match afterSlash? true path with
    | none => .ok (served none (filePath path))
    | some rest => do
      let span := rest.takeWhile fun c => !isSlash true c
      let behind := rest.drop span.length
      let hostChars := visible span
      if isDrive hostChars then return served none (filePath rest)
      if hostChars.isEmpty then return served none (filePath behind)
      let host ← Host.ofSpecial hostChars
      if host = .name "localhost" then return served none (filePath behind)
      let path := filePath (dropSlash true behind)
      return served (if path.2 then none else some host) path

/-! ## URLs -/

/-- What precedes the first `sep`, and what follows it if there is one. -/
def cutOff (sep : Char) (cs : List Char) : List Char × Option (List Char) :=
  match Text.splitOnceChars sep cs with
  | some (before, behind) => (before, some behind)
  | none => (cs, none)

/-- The URL of some characters. -/
def ofChars (cs : List Char) : Except UrlError Url := do
  match readScheme (Text.trimChars isMargin cs) with
  | none => throw .relative
  | some (scheme, rest) =>
    let (rest, fragment) := cutOff '#' rest
    let (body, query) := cutOff '?' rest
    let more := query.isSome || fragment.isSome
    let (authority, path) ←
      if scheme = "file" then readFile body
      else if isSpecial scheme then readSpecial scheme more (visible body)
      else readOther scheme more (visible body)
    let encode (set : Char → Bool) (part : List Char) := String.ofList (Percent.encode set (visible part))
    return {
      scheme
      authority
      path
      query := query.map (encode (if isSpecial scheme then Percent.specialQuery else Percent.query))
      fragment := fragment.map (encode Percent.fragment) }

/-- The URL with a given text. -/
def ofText (s : String) : Except UrlError Url := ofChars s.toList

end Coap.Url
