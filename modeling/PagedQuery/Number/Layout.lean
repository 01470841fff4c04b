import PagedQuery.Number.Decimal

/-!
How a number is written: which of its forms is positional, and how an exponent looks.
-/
namespace PagedQuery

structure Layout where
  /-- Numbers with a leading digit at `10 ^ least` or above, and below `10 ^ limit`, are
  positional. -/
  least : Int
  limit : Int
  /-- The least count of digits in an exponent. -/
  exponentWidth : Nat

namespace Layout

/-- Positional from `0.0001` to below `10 ^ 16`, at least two digits in an exponent. -/
def plain : Layout := ⟨-4, 16, 2⟩

def padLeft (width : Nat) (digits : List Char) : List Char :=
  List.replicate (width - digits.length) '0' ++ digits

/-- The digits with a point after the one at `10 ^ 0`; `lead` is the place of the first. -/
def positional (digits : List Char) (lead : Int) : List Char :=
  if lead < 0 then '0' :: '.' :: (List.replicate (-lead - 1).toNat '0' ++ digits)
  else
    let whole := lead.toNat + 1
    let fraction := digits.drop whole
    digits.take whole ++ List.replicate (whole - digits.length) '0' ++ '.' ::
      (if fraction.isEmpty then ['0'] else fraction)

def scientific (width : Nat) (digits : List Char) (lead : Int) : List Char :=
  let fraction := digits.drop 1
  digits.take 1 ++ (if fraction.isEmpty then [] else '.' :: fraction) ++
    'e' :: (if lead < 0 then '-' else '+') :: padLeft width (Nat.toDigits 10 lead.natAbs)

/-- A number written by its shortest digits, always with a point or an exponent. -/
def write (layout : Layout) : Binary64 → List Char
  | .nan => ['n', 'a', 'n']
  | .infinite negative => (if negative then ['-'] else []) ++ ['i', 'n', 'f']
  | .finite negative m e =>
    let sign := if negative then ['-'] else []
    if m = 0 then sign ++ ['0', '.', '0']
    else
      let (k, place) := Decimal.shortest m e
      let all := Nat.toDigits 10 k
      let digits := (all.reverse.dropWhile (· = '0')).reverse
      let lead := place + all.length - 1
      sign ++ (if layout.least ≤ lead ∧ lead < layout.limit then positional digits lead
        else scientific layout.exponentWidth digits lead)

end Layout

def Binary64.text (x : Binary64) : String := String.ofList (Layout.plain.write x)

end PagedQuery
