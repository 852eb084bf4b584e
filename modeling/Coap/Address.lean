import Coap.Bytes
import Coap.Text.Split

/-!
# Network addresses

Addresses of the two versions of the Internet Protocol, with their text forms, and socket addresses.

* `Ip.ofText4?`, `Ip.ofText6?` — read an address. Four decimal parts without leading zeros, or eight
  groups of up to four hexadecimal digits, of which `::` stands for one or more zero groups; the last
  two groups may be written as four decimal parts.
* `Ip.text6` — write the groups, with `::` for the first of the longest runs of zero groups.
* `Address.text` — an address with its port. An embedded four-part address is then written as such, and
  a zone behind a percent sign.
* The order of addresses is by version, then by number, then by port, then by zone.
-/

namespace Coap

/-- An address of either version of the Internet Protocol. -/
inductive Ip where
  /-- Version 4. -/
  | v4 (value : BitVec 32)
  /-- Version 6. An address on a link is unique within a zone only; zone 0 stands for any. -/
  | v6 (value : BitVec 128) (zone : UInt32)
deriving DecidableEq, Repr

instance : Inhabited Ip := ⟨.v4 0⟩

namespace Ip

/-! ## Reading -/

/-- A decimal number of digits only. -/
def decimal? (cs : List Char) : Option Nat :=
  if cs.isEmpty || !cs.all Char.isDigit then none
  else some (cs.foldl (fun n c => n * 10 + (c.toNat - 0x30)) 0)

/-- A decimal part of an address: up to 255, in as few digits as it takes. -/
def octet? (cs : List Char) : Option Nat :=
  if cs.length ≤ 3 && !(cs.head? = some '0' && 1 < cs.length) then
    (decimal? cs).filter (· < 256)
  else none

/-- The number of a version 4 address in its four decimal parts. -/
def value4? (cs : List Char) : Option Nat := do
  let parts ← (Text.splitChars '.' cs).mapM octet?
  if parts.length = 4 then some (parts.foldl (fun n p => n * 256 + p) 0) else none

/-- A group of one to four hexadecimal digits. -/
def group? (cs : List Char) : Option Nat := do
  let digits ← cs.mapM Bytes.hexValue?
  if 1 ≤ digits.length ∧ digits.length ≤ 4 then some (digits.foldl (fun n d => n * 16 + d) 0)
  else none

/-- Groups between colons; if `embed`, the last may be a version 4 address, which makes two. -/
def groups? (embed : Bool) : List (List Char) → Option (List Nat)
  | [] => some []
  | [last] =>
    match group? last with
    | some g => some [g]
    | none => if embed then (value4? last).map fun v => [v / 65536, v % 65536] else none
  | first :: more => do return (← group? first) :: (← groups? embed more)

/-- The groups of a text that may be empty. -/
def groupsOrNone? (embed : Bool) (cs : List Char) : Option (List Nat) :=
  if cs.isEmpty then some [] else groups? embed (Text.splitChars ':' cs)

/-- What stands before and behind the first `::`. -/
def splitGap : List Char → Option (List Char × List Char)
  | [] => none
  | [_] => none
  | ':' :: ':' :: rest => some ([], rest)
  | c :: rest => (splitGap rest).map fun p => (c :: p.1, p.2)

/-- The eight groups of a version 6 address. -/
def groups6? (cs : List Char) : Option (List Nat) :=
  match splitGap cs with
  | none => (groupsOrNone? true cs).filter (·.length = 8)
  | some (before, behind) => do
    let head ← groupsOrNone? false before
    let tail ← groupsOrNone? true behind
    if head.length + tail.length ≤ 7 then
      some (head ++ List.replicate (8 - head.length - tail.length) 0 ++ tail)
    else none

/-- The version 4 address with a given text. -/
def ofText4? (s : String) : Option Ip := (value4? s.toList).map fun v => .v4 v

/-- The version 6 address of eight groups. -/
def ofGroups (gs : List Nat) : BitVec 128 := BitVec.ofNat 128 (gs.foldl (fun n g => n * 65536 + g) 0)

/-- The version 6 address with given characters, in a zone. -/
def ofChars6? (cs : List Char) (zone : UInt32) : Option Ip :=
  (groups6? cs).map fun gs => .v6 (ofGroups gs) zone

/-- The version 6 address with a given text, in any zone. -/
def ofText6? (s : String) : Option Ip := ofChars6? s.toList 0

/-- The version 6 address with given characters, in the zone whose number may stand behind it. -/
def ofZoned6? (cs : List Char) : Option Ip :=
  match Text.splitOnceChars '%' cs with
  | some (host, zone) =>
    ((decimal? zone).filter (· < UInt32.size)).bind fun n => ofChars6? host n.toUInt32
  | none => ofChars6? cs 0

/-- The address with a given text. -/
def ofText? (s : String) : Option Ip := (ofText4? s).or (ofText6? s)

/-! ## Writing -/

/-- A version 4 address in four decimal parts. -/
def text4 (v : BitVec 32) : String :=
  let n := v.toNat
  s!"{n / 16777216}.{n / 65536 % 256}.{n / 256 % 256}.{n % 256}"

/-- The eight groups of a version 6 address. -/
def groups (v : BitVec 128) : List Nat :=
  (List.range 8).map fun i => v.toNat >>> (16 * (7 - i)) % 65536

/-- Length of the run of zeros a list starts with. -/
def zeroRun : List Nat → Nat
  | 0 :: rest => zeroRun rest + 1
  | _ => 0

/-- Position and length of the first of the longest runs of zeros; `at'` is the position of the
list's head, and `best` what was found before. -/
def longestRun (at' : Nat) (best : Nat × Nat) : List Nat → Nat × Nat
  | [] => best
  | g :: rest =>
    let run := zeroRun (g :: rest)
    longestRun (at' + 1) (if best.2 < run then (at', run) else best) rest

/-- Groups in hexadecimal digits between colons. -/
def hexGroups (gs : List Nat) : String :=
  Text.join ":" (gs.map fun g => String.ofList (Nat.toDigits 16 g))

/-- A version 6 address, with `::` for the first of the longest runs of two or more zero groups. -/
def text6 (v : BitVec 128) : String :=
  let gs := groups v
  let run := longestRun 0 (0, 0) gs
  if run.2 < 2 then hexGroups gs
  else hexGroups (gs.take run.1) ++ "::" ++ hexGroups (gs.drop (run.1 + run.2))

end Ip

/-- A network address with a port. -/
structure Address where
  /-- The host. -/
  ip : Ip
  /-- The port on it. -/
  port : UInt16
deriving DecidableEq, Repr, Inhabited

namespace Address

/-- What addresses are ordered by: version, number of the host, port, zone. -/
def sortKey (a : Address) : List Nat :=
  match a.ip with
  | .v4 v => [0, v.toNat, a.port.toNat, 0]
  | .v6 v zone => [1, v.toNat, a.port.toNat, zone.toNat]

instance : Ord Address := ⟨compareOn sortKey⟩

instance : Std.TransOrd Address := inferInstanceAs (Std.TransCmp (compareOn sortKey))

theorem sortKey_injective {a b : Address} (h : a.sortKey = b.sortKey) : a = b := by
  obtain ⟨i, p⟩ := a
  obtain ⟨j, q⟩ := b
  cases i <;> cases j <;> simp_all [sortKey, BitVec.toNat_inj, UInt16.toNat_inj, UInt32.toNat_inj]

instance : Std.LawfulEqOrd Address where
  eq_of_compare {a b} h :=
    sortKey_injective (Std.LawfulEqOrd.eq_of_compare (a := a.sortKey) (b := b.sortKey) h)

/-- The prefix of version 6 addresses that embed one of version 4, as a number. -/
def embedPrefix : Nat := 0xFFFF

/-- The address with its port; version 6 stands in brackets. -/
def text (a : Address) : String :=
  match a.ip with
  | .v4 v => s!"{Ip.text4 v}:{a.port.toNat}"
  | .v6 v zone =>
    let host :=
      if v.toNat >>> 32 = embedPrefix then "::ffff:" ++ Ip.text4 (v.setWidth 32) else Ip.text6 v
    let behind := if zone = 0 then "" else s!"%{zone.toNat}"
    s!"[{host}{behind}]:{a.port.toNat}"

/-- A port number. -/
def port? (cs : List Char) : Option UInt16 :=
  ((Ip.decimal? cs).filter (· < 65536)).map Nat.toUInt16

/-- The address with a given text. -/
def ofText? (s : String) : Option Address :=
  match s.toList with
  | '[' :: rest => do
    let (host, behind) ← Text.splitOnceChars ']' rest
    match behind with
    | ':' :: port => return ⟨← Ip.ofZoned6? host, ← port? port⟩
    | _ => none
  | cs => do
    let (host, port) ← Text.splitOnceChars ':' cs
    return ⟨← Ip.ofText4? (String.ofList host), ← port? port⟩

end Address

end Coap
