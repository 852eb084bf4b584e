/-!
# Option numbers

The number of an option tells what it means, and its low bits tell what a recipient or a proxy that
does not know it has to do.
-/

namespace Coap

/-- The number of an option. -/
structure OptionNumber where
  /-- The number itself. -/
  val : UInt32
deriving DecidableEq, Repr, Inhabited

namespace OptionNumber

instance : Ord OptionNumber := ⟨compareOn OptionNumber.val⟩

instance : Std.TransOrd OptionNumber :=
  inferInstanceAs (Std.TransCmp (compareOn OptionNumber.val))

instance : Std.LawfulEqOrd OptionNumber where
  eq_of_compare {a b} h := by
    have : a.val = b.val := Std.LawfulEqOrd.eq_of_compare h
    cases a; cases b; cases this; rfl

/-- Must a recipient that does not know the option reject the message? -/
def isCritical (n : OptionNumber) : Bool := n.val &&& 1 == 1

/-- Must a proxy that does not know the option not forward the message? -/
def isUnsafe (n : OptionNumber) : Bool := n.val &&& 2 != 0

/-- May a cache ignore the option when it compares requests? -/
def isNoCacheKey (n : OptionNumber) : Bool := !n.isUnsafe && n.val &&& 0x1C == 0x1C

/-! ### Registered numbers -/

def ifMatch : OptionNumber := ⟨1⟩
def uriHost : OptionNumber := ⟨3⟩
def etag : OptionNumber := ⟨4⟩
def ifNoneMatch : OptionNumber := ⟨5⟩
def observe : OptionNumber := ⟨6⟩
def uriPort : OptionNumber := ⟨7⟩
def locationPath : OptionNumber := ⟨8⟩
def uriPath : OptionNumber := ⟨11⟩
def contentFormat : OptionNumber := ⟨12⟩
def maxAge : OptionNumber := ⟨14⟩
def uriQuery : OptionNumber := ⟨15⟩
def accept : OptionNumber := ⟨17⟩
def locationQuery : OptionNumber := ⟨20⟩
def proxyUri : OptionNumber := ⟨35⟩
def proxyScheme : OptionNumber := ⟨39⟩
def size1 : OptionNumber := ⟨60⟩

end OptionNumber

end Coap
