import PagedQuery.Text.Encoding

/-!
UTF-16 and UTF-32 in both orders of bytes.
-/
namespace PagedQuery.Text

inductive ByteOrder
  | little
  | big
deriving DecidableEq, Repr

def ByteOrder.number : ByteOrder → List UInt8 → Nat
  | little, bytes => bytes.foldr (fun b n => 256 * n + b.toNat) 0
  | big, bytes => bytes.foldl (fun n b => 256 * n + b.toNat) 0

/-- The number in the first `count` bytes, if there are so many. -/
def ByteOrder.read? (order : ByteOrder) (count : Nat) (bytes : List UInt8) : Option Nat :=
  let first := bytes.take count
  if first.length = count then some (order.number first) else none

/-- A unit of 16 bits is a character or half of a pair. -/
def utf16Piece (order : ByteOrder) (first : UInt8) (rest : List UInt8) : Piece :=
  let bytes := first :: rest
  match order.read? 2 bytes with
  | none => .bad 1 .truncated
  | some unit =>
    if isLowSurrogate unit then .bad 2 .lonelyLow
    else if isHighSurrogate unit then
      match order.read? 2 (bytes.drop 2) with
      | none => .bad bytes.length .unexpectedEnd
      | some next =>
        if isLowSurrogate next then .char (ofSurrogates unit next) 4 else .bad 2 .lonelyHigh
    else .char (Char.ofNat unit) 2

/-- The surrogate in the first `count` bytes. -/
def surrogateIn? (order : ByteOrder) (count : Nat) (bytes : List UInt8) : Option (Nat × Nat) :=
  match order.read? count bytes with
  | some n => if isSurrogate n then some (n, count) else none
  | none => none

def utf16 (order : ByteOrder) : Encoding where
  name := match order with
    | .little => "utf-16-le"
    | .big => "utf-16-be"
  piece := utf16Piece order
  surrogate? := surrogateIn? order 2

/-- A unit of 32 bits is a character. -/
def utf32Piece (order : ByteOrder) (first : UInt8) (rest : List UInt8) : Piece :=
  let bytes := first :: rest
  match order.read? 4 bytes with
  | none => .bad bytes.length .truncated
  | some n =>
    if 0x10ffff < n then .bad 4 .outOfRange
    else if isSurrogate n then .bad 4 .surrogate
    else .char (Char.ofNat n) 4

def utf32 (order : ByteOrder) : Encoding where
  name := match order with
    | .little => "utf-32-le"
    | .big => "utf-32-be"
  piece := utf32Piece order
  surrogate? := surrogateIn? order 4

end PagedQuery.Text
