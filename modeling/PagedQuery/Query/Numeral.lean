import PagedQuery.Number.Decimal
import PagedQuery.Text.Blank

/-!
Numbers in text. A whole number is read in its strict form; a text that is not in that form is
tidied and read once more. Tidying takes away white space around the text, a plus sign, zeros in
front, a fraction of zeros only, and single underscores inside.
-/
namespace PagedQuery.Numeral

inductive Whole
  | number (n : Int)
  /-- It begins with more digits than are read. -/
  | tooLong
  | none
deriving DecidableEq, Repr

/-- The strict form: a minus sign or none, then zero alone or digits that begin with another one.
Too many digits are noticed before what comes after them. -/
def strict (cs : List Char) : Whole :=
  let (negative, unsigned) := match cs with
    | '-' :: rest => (true, rest)
    | _ => (false, cs)
  let digits := unsigned.takeWhile Decimal.isAsciiDigit
  let last := digits.length == unsigned.length
  match digits with
  | [] => .none
  | '0' :: more => if more.isEmpty && last then .number 0 else .none
  | _ =>
    if Text.maxDigits < digits.length then .tooLong
    else if last then .number (Binary64.signed negative (Decimal.asciiValue digits))
    else .none

/-- Whether a numeral may go on with this character after zeros that are dropped. -/
def isFront (c : Char) : Bool := Decimal.isAsciiDigit c || c = '-'

/-- Drops more zeros and underscores; `last` is the one dropped before. The last one stays when
nothing or a point follows it. -/
def dropMoreZeros? (last : Char) : List Char → Option (List Char)
  | [] => some [last]
  | c :: rest =>
    if c = '0' || c = '_' then dropMoreZeros? c rest
    else if c = '.' then some (last :: c :: rest)
    else if isFront c then some (c :: rest)
    else none

/-- Drops the zeros in front of a numeral, with underscores after the first of them. -/
def dropZeros? : List Char → Option (List Char)
  | [] => none
  | c :: rest =>
    if c = '0' then dropMoreZeros? c rest else if isFront c then some (c :: rest) else none

def dropZeroFraction (cs : List Char) : List Char :=
  let whole := cs.takeWhile (· ≠ '.')
  let fraction := cs.drop (whole.length + 1)
  if !fraction.isEmpty && fraction.all (· = '0') then whole else cs

/-- Every underscore has another character on each side; given back without them. -/
def dropUnderscores? : List Char → Option (List Char)
  | [] => some []
  | '_' :: _ => none
  | c :: '_' :: d :: rest => (dropUnderscores? (d :: rest)).map (c :: ·)
  | c :: rest => (dropUnderscores? rest).map (c :: ·)

def tidyUnsigned? (cs : List Char) : Option (List Char) :=
  (dropZeros? cs).map fun cs =>
    let cs := dropZeroFraction cs
    (dropUnderscores? cs).getD cs

/-- A text without what the strict form does not allow. -/
def tidy? (cs : List Char) : Option (List Char) :=
  match Text.trim cs with
  | '-' :: rest => (tidyUnsigned? rest).map ('-' :: ·)
  | '+' :: '-' :: _ => none
  | '+' :: rest => tidyUnsigned? rest
  | cs => tidyUnsigned? cs

/-- Reads a whole number. That it is too long is said of texts in strict form alone. -/
def whole (cs : List Char) : Whole :=
  match strict cs with
  | .none =>
    match (tidy? cs).map strict with
    | some (.number n) => .number n
    | _ => .none
  | r => r

/-- Reads a number with white space around it, or one without that has single underscores
inside. -/
def real? (cs : List Char) : Option Binary64 :=
  match Binary64.read? (Text.trim cs) with
  | some x => some x
  | none => (dropUnderscores? cs).bind Binary64.read?

end PagedQuery.Numeral
