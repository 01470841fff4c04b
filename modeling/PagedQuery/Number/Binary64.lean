/-!
Binary floating point numbers with 53 significant bits. Every operation computes the exact
rational result and rounds it once, to the nearest number, a half to the even neighbour.
-/
namespace PagedQuery

/-- A finite number is `mantissa * 2 ^ exponent` with its sign apart. -/
inductive Binary64
  | nan
  | infinite (negative : Bool)
  | finite (negative : Bool) (mantissa : Nat) (exponent : Int)
deriving DecidableEq, Repr, Inhabited

/-- The power `base ^ e`, and one for a negative `e`. -/
def scale (base : Nat) (e : Int) : Nat := Nat.pow base e.toNat

/-- The whole number nearest to `n / d`, a half going to the even one. -/
def roundHalfEven (n d : Nat) : Nat :=
  let q := n / d
  let r := n % d
  if 2 * r < d then q else if d < 2 * r then q + 1 else q + q % 2

/-- The largest `k` with `2 ^ k ≤ n / d`, for positive `n` and `d`. -/
def ratioLog (n d : Nat) : Int :=
  let k : Int := (n.log2 : Int) - (d.log2 : Int)
  if d * scale 2 k ≤ n * scale 2 (-k) then k else k - 1

namespace Binary64

def leastExponent : Int := -1074
def greatestExponent : Int := 971

def zero (negative : Bool) : Binary64 := .finite negative 0 leastExponent

/-- The least mantissa with all bits. -/
def leastFull : Nat := 4503599627370496

/-- The exponent of the last bit that is kept of `n / d`. -/
def lastBit (n d : Nat) : Int :=
  let e := ratioLog n d - 52
  if e < leastExponent then leastExponent else e

/-- The number nearest to `n / d`; infinite when that is beyond the greatest number. -/
def ofRatio (negative : Bool) (n d : Nat) : Binary64 :=
  if n = 0 then zero negative
  else
    let e := lastBit n d
    let m := roundHalfEven (n * scale 2 (-e)) (d * scale 2 e)
    let (m, e) := if m = 2 * leastFull then (leastFull, e + 1) else (m, e)
    if greatestExponent < e then .infinite negative else .finite negative m e

/-- The number nearest to `m * 2 ^ e`. -/
def ofScaled (negative : Bool) (m : Nat) (e : Int) : Binary64 :=
  ofRatio negative (m * scale 2 e) (scale 2 (-e))

def ofInt (i : Int) : Binary64 := ofRatio (i < 0) i.natAbs 1

/-- The number nearest to the quotient of two whole numbers, the second not zero. -/
def quotient (a b : Int) : Binary64 := ofRatio ((a < 0) != (b < 0)) a.natAbs b.natAbs

def isFinite : Binary64 → Bool
  | .finite .. => true
  | _ => false

def signed (negative : Bool) (m : Nat) : Int := if negative then -m else m

def mul : Binary64 → Binary64 → Binary64
  | .finite s m e, .finite t n f => ofScaled (s != t) (m * n) (e + f)
  | .infinite s, .infinite t => .infinite (s != t)
  | .infinite s, .finite t n _ => if n = 0 then .nan else .infinite (s != t)
  | .finite s m _, .infinite t => if m = 0 then .nan else .infinite (s != t)
  | _, _ => .nan

def lower (e f : Int) : Int := if e ≤ f then e else f

def sub : Binary64 → Binary64 → Binary64
  | .finite s m e, .finite t n f =>
    let low := lower e f
    let d := signed s (m * scale 2 (e - low)) - signed t (n * scale 2 (f - low))
    if d = 0 then zero (s && !t) else ofScaled (d < 0) d.natAbs low
  | .infinite s, .infinite t => if s = t then .nan else .infinite s
  | .infinite s, .finite .. => .infinite s
  | .finite .., .infinite t => .infinite !t
  | _, _ => .nan

def endOrder (negative : Bool) : Ordering := if negative then .lt else .gt

/-- The order of two numbers; not a number has none. -/
def compare? : Binary64 → Binary64 → Option Ordering
  | .finite s m e, .finite t n f =>
    let low := lower e f
    some (compare (signed s (m * scale 2 (e - low))) (signed t (n * scale 2 (f - low))))
  | .infinite s, .infinite t => some (if s = t then .eq else endOrder s)
  | .infinite s, .finite .. => some (endOrder s)
  | .finite .., .infinite t => some (endOrder t).swap
  | _, _ => none

/-- The order of a number and a whole number, by their exact values. -/
def compareInt? : Binary64 → Int → Option Ordering
  | .finite s m e, i => some (compare (signed s (m * scale 2 e)) (i * scale 2 (-e)))
  | .infinite s, _ => some (endOrder s)
  | .nan, _ => none

/-- The whole part, toward zero, of a finite number. -/
def truncate? : Binary64 → Option Int
  | .finite s m e => some ((signed s (m * scale 2 e)).tdiv (scale 2 (-e)))
  | _ => none

/-- The least whole number that is not below a finite number. -/
def ceil? : Binary64 → Option Int
  | .finite s m e => some (-(-(signed s (m * scale 2 e))).fdiv (scale 2 (-e)))
  | _ => none

/-- The whole number that a finite number without a fraction stands for. -/
def whole? : Binary64 → Option Int
  | .finite s m e =>
    if m * scale 2 e % scale 2 (-e) = 0 then
      some ((signed s (m * scale 2 e)).tdiv (scale 2 (-e)))
    else none
  | _ => none

end Binary64
end PagedQuery
