import PagedQuery.Fault
import PagedQuery.Number.Layout

/-!
Numbers in the forms a caller may give them. All three forms share one order, in which true
counts as one and false as zero.
-/
namespace PagedQuery

inductive Number
  | whole (n : Int)
  | flag (b : Bool)
  | real (x : Binary64)
deriving DecidableEq, Repr, Inhabited

namespace Number

def intText (i : Int) : String :=
  String.ofList ((if i < 0 then ['-'] else []) ++ Nat.toDigits 10 i.natAbs)

def boolText (b : Bool) : String := if b then "True" else "False"

/-- A whole number as text, which one with too many digits does not have. -/
def wholeText (n : Int) : Except Fault String :=
  if Text.maxDigits < Decimal.digitCount n.natAbs then .error .wrongValue else .ok (intText n)

def text : Number → Except Fault String
  | whole n => wholeText n
  | flag b => .ok (boolText b)
  | real x => .ok x.text

def bit (b : Bool) : Int := if b then 1 else 0

def compareInt? : Number → Int → Option Ordering
  | whole n, i => some (compare n i)
  | flag b, i => some (compare (bit b) i)
  | real x, i => x.compareInt? i

def compare? : Number → Number → Option Ordering
  | a, whole n => a.compareInt? n
  | a, flag b => a.compareInt? (bit b)
  | whole n, real x => (x.compareInt? n).map Ordering.swap
  | flag b, real x => (x.compareInt? (bit b)).map Ordering.swap
  | real x, real y => x.compare? y

def same (a b : Number) : Bool := a.compare? b == some .eq

def isInt (a : Number) (i : Int) : Bool := a.compareInt? i == some .eq

def above (a : Number) (i : Int) : Bool := a.compareInt? i == some .gt

def below (a : Number) (i : Int) : Bool := a.compareInt? i == some .lt

end Number
end PagedQuery
