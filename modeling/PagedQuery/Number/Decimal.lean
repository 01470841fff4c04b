import PagedQuery.Number.Binary64
import PagedQuery.Text.Digit

/-!
Decimal numerals: reading one as the nearest binary number, and finding for a binary number the
decimal with the fewest digits that reads back as it.
-/
namespace PagedQuery

/-- The numeral `digits * 10 ^ exponent` with its sign apart. -/
structure Decimal where
  negative : Bool
  digits : Nat
  exponent : Int
deriving DecidableEq, Repr

namespace Decimal

def digitCount (n : Nat) : Nat := (Nat.toDigits 10 n).length

/-- The number nearest to a numeral. Numerals far outside the range are settled by their size. -/
def toBinary64 (d : Decimal) : Binary64 :=
  let top := digitCount d.digits + d.exponent
  if d.digits = 0 ∨ top < -330 then Binary64.zero d.negative
  else if 310 < top then .infinite d.negative
  else Binary64.ofRatio d.negative (d.digits * scale 10 d.exponent) (scale 10 (-d.exponent))

def isAsciiDigit (c : Char) : Bool := '0' ≤ c && c ≤ '9'

def asciiValue (cs : List Char) : Nat := Text.ofDigits (cs.map fun c => c.toNat - '0'.toNat)

def splitSign : List Char → Bool × List Char
  | '-' :: rest => (true, rest)
  | '+' :: rest => (false, rest)
  | cs => (false, cs)

/-- The exponent part at the end of a numeral, absent or complete. -/
def readExponent? : List Char → Option Int
  | [] => some 0
  | c :: rest =>
    let (negative, digits) := splitSign rest
    if (c = 'e' || c = 'E') && !digits.isEmpty && digits.all isAsciiDigit then
      some (Binary64.signed negative (asciiValue digits))
    else none

/-- Digits with an optional point among or beside them, then an optional exponent. -/
def readUnsigned? (negative : Bool) (cs : List Char) : Option Decimal :=
  let whole := cs.takeWhile isAsciiDigit
  let rest := cs.dropWhile isAsciiDigit
  let (fraction, rest) := match rest with
    | '.' :: rest => (rest.takeWhile isAsciiDigit, rest.dropWhile isAsciiDigit)
    | _ => ([], rest)
  if whole.isEmpty && fraction.isEmpty then none
  else (readExponent? rest).map fun e =>
    ⟨negative, asciiValue (whole ++ fraction), e - fraction.length⟩

/-- Where the leading digit of `n / d` stands: `10 ^ (top - 1) ≤ n / d < 10 ^ top`. -/
def top (n d : Nat) : Int :=
  if d ≤ n then digitCount (n / d) else 1 - (digitCount ((d - 1) / n) : Int)

/-- The multiple of `10 ^ place` nearest to `n / d` among its two neighbours that read back as
`x`; of two equally near ones the even multiple. -/
def onGrid? (x : Binary64) (n d : Nat) (place : Int) : Option Nat :=
  let a := n * scale 10 (-place)
  let b := d * scale 10 place
  let low := a / b
  let r := a % b
  let fits (k : Nat) := Binary64.ofRatio false (k * scale 10 place) (scale 10 (-place)) = x
  if fits low then
    if fits (low + 1) && (b < 2 * r || b == 2 * r && low % 2 == 1) then some (low + 1) else some low
  else if fits (low + 1) then some (low + 1) else none

/-- The shortest digits, and the place of the last, that read back as `m * 2 ^ e`. -/
def shortest (m : Nat) (e : Int) : Nat × Int :=
  let n := m * scale 2 e
  let d := scale 2 (-e)
  let places := (List.range 17).map fun (count : Nat) => top n d - count - 1
  (places.findSome? fun place =>
    (onGrid? (.finite false m e) n d place).map fun k => (k, place)).getD (m, e)

end Decimal

namespace Binary64

/-- A number as text: a decimal numeral, or one of the names of the values that have none. -/
def read? (cs : List Char) : Option Binary64 :=
  let (negative, rest) := Decimal.splitSign cs
  let name := String.ofList (rest.map Char.toLower)
  if name = "nan" then some .nan
  else if name = "inf" ∨ name = "infinity" then some (.infinite negative)
  else (Decimal.readUnsigned? negative rest).map Decimal.toBinary64

end Binary64
end PagedQuery
