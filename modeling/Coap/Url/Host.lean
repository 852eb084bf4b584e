import Coap.Address
import Coap.Domain.Name
import Coap.Url.Percent

/-!
# Hosts of URLs

A host is a name or an address. How names are read depends on the scheme.

* `Host.ofSpecial` — in the schemes that the standard knows: encoded octets are decoded, the name is a
  domain name in any script and becomes one in ASCII, and one whose last label is a number has to be a
  version 4 address, in one to four parts, each decimal, octal behind `0` or hexadecimal behind `0x`.
* `Host.ofOther` — in all other schemes: the name stays as it is, and numbers are nothing special.
* In both, brackets hold a version 6 address.
-/

namespace Coap

/-- Why a text is no URL. -/
inductive UrlError where
  /-- There is no scheme, so the URL would be relative to another. -/
  | relative
  /-- The host is missing. -/
  | emptyHost
  /-- The port is no number of 16 bits. -/
  | invalidPort
  /-- The host looks like a version 4 address but is none. -/
  | invalidIp4
  /-- What stands in brackets is no version 6 address. -/
  | invalidIp6
  /-- The host holds a character that no host may hold. -/
  | invalidDomainCharacter
  /-- The host is no domain name, in any script. -/
  | invalidDomainName
deriving DecidableEq, Repr

/-- What went wrong, for people. -/
def UrlError.message : UrlError → String
  | .relative => "relative URL without a base"
  | .emptyHost => "empty host"
  | .invalidPort => "invalid port number"
  | .invalidIp4 => "invalid IPv4 address"
  | .invalidIp6 => "invalid IPv6 address"
  | .invalidDomainCharacter => "invalid domain character"
  | .invalidDomainName => "invalid international domain name"

/-- The host of a URL. -/
inductive Host where
  /-- A name. -/
  | name (s : String)
  /-- A version 4 address. -/
  | ip4 (value : BitVec 32)
  /-- A version 6 address. -/
  | ip6 (value : BitVec 128)
deriving DecidableEq, Repr

namespace Host

/-- The host as a URL shows it; a version 6 address stands in brackets. -/
def text : Host → String
  | .name s => s
  | .ip4 v => Ip.text4 v
  | .ip6 v => "[" ++ Ip.text6 v ++ "]"

/-- The name, if the host is one. -/
def name? : Host → Option String
  | .name s => some s
  | .ip4 _ => none
  | .ip6 _ => none

/-! ## Addresses in brackets -/

/-- What stands in brackets, if there is an opening one: a version 6 address. -/
def bracketed? (cs : List Char) : Option (Except UrlError Host) :=
  match cs with
  | '[' :: inner =>
    if inner.getLast? = some ']' then
      match Ip.groups6? inner.dropLast with
      | some gs => some (.ok (.ip6 (Ip.ofGroups gs)))
      | none => some (.error .invalidIp6)
    else some (.error .invalidIp6)
  | _ => none

/-! ## Names in schemes that the standard does not know -/

/-- Characters that no host holds. -/
def forbidden (c : Char) : Bool :=
  c ∈ ['\x00', '\t', '\n', '\r', ' ', '#', '/', ':', '<', '>', '?', '@', '[', '\\', ']', '^', '|']

/-- The host of a URL whose scheme the standard does not know. -/
def ofOther (cs : List Char) : Except UrlError Host :=
  match bracketed? cs with
  | some result => result
  | none =>
    if cs.any forbidden then .error .invalidDomainCharacter
    else .ok (.name (String.ofList (Percent.encode Percent.controls cs)))

/-! ## Names in schemes that the standard knows -/

/-- Characters that no domain name holds. -/
def forbiddenInDomain (c : Char) : Bool := forbidden c || Percent.controls c || c == '%'

/-- The digits of a number and their base, by its prefix. -/
def numberDigits (cs : List Char) : Nat × List Char :=
  match cs with
  | '0' :: 'x' :: digits => (16, digits)
  | '0' :: 'X' :: digits => (16, digits)
  | '0' :: d :: digits => (8, d :: digits)
  | digits => (10, digits)

/-- The number that a part of an address stands for; a prefix alone is zero. -/
def number? (cs : List Char) : Option Nat :=
  if cs.isEmpty then none
  else
    let (base, digits) := numberDigits cs
    (digits.mapM fun c => (Bytes.hexValue? c).filter (· < base)).map fun ds =>
      ds.foldl (fun n d => n * base + d) 0

/-- Parts between dots, without an empty last one. -/
def parts (cs : List Char) : List (List Char) :=
  let all := Text.splitChars '.' cs
  if all.getLast? = some [] then all.dropLast else all

/-- Is the last label of a name a number? -/
def endsInNumber (cs : List Char) : Bool :=
  match (parts cs).getLast? with
  | some last => (!last.isEmpty && last.all Char.isDigit) || (number? last).isSome
  | none => false

/-- The number of an address of one to four parts, the last of which fills up the places that are
left. -/
def value4? (cs : List Char) : Option Nat := do
  let numbers ← (parts cs).mapM number?
  let last ← numbers.getLast?
  let leading := numbers.dropLast
  if leading.length ≤ 3 ∧ leading.all (· < 256) ∧ last < 1 <<< (8 * (4 - leading.length)) then
    some (leading.foldl (fun n p => n * 256 + p) 0 <<< (8 * (4 - leading.length)) + last)
  else none

/-- The host of a URL whose scheme the standard knows. -/
def ofSpecial (cs : List Char) : Except UrlError Host :=
  match bracketed? cs with
  | some result => result
  | none =>
    match (Text.decode? (Percent.decode cs)).bind Domain.toAscii? with
    | none => .error .invalidDomainName
    | some domain =>
      if domain.any forbiddenInDomain then .error .invalidDomainName
      else if domain.isEmpty then .error .emptyHost
      else if endsInNumber domain then
        match value4? domain with
        | some v => .ok (.ip4 (BitVec.ofNat 32 v))
        | none => .error .invalidIp4
      else .ok (.name (String.ofList domain))

end Host

end Coap
