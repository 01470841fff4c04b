import PagedQuery.Text.Quoted

/-!
Encodings: how bytes are read as text. An encoding says what the first bytes of a text are, a
character or a stretch that is ill-formed. The strict reader stops at the first such stretch and
says where it lies and what is wrong with it; the lenient reader replaces each.
-/
namespace PagedQuery.Text

inductive Problem
  | invalidStart
  | invalidContinuation
  | unexpectedEnd
  | truncated
  | lonelyHigh
  | lonelyLow
  | surrogate
  | outOfRange
  | undefined
deriving DecidableEq, Repr

def Problem.text : Problem → String
  | invalidStart => "invalid start byte"
  | invalidContinuation => "invalid continuation byte"
  | unexpectedEnd => "unexpected end of data"
  | truncated => "truncated data"
  | lonelyHigh => "illegal UTF-16 surrogate"
  | lonelyLow => "illegal encoding"
  | surrogate => "code point in surrogate code point range(0xd800, 0xe000)"
  | outOfRange => "code point not in range(0x110000)"
  | undefined => "character maps to <undefined>"

/-- The first bytes of a text, at least one: a character, or an ill-formed stretch. -/
inductive Piece
  | char (c : Char) (width : Nat)
  | bad (width : Nat) (problem : Problem)
deriving DecidableEq, Repr

structure Encoding where
  name : String
  /-- What a byte begins, with the bytes after it. -/
  piece : UInt8 → List UInt8 → Piece
  /-- The surrogate that a text begins with, and how many bytes it takes. -/
  surrogate? : List UInt8 → Option (Nat × Nat)

/-- A stretch of bytes that is ill-formed in an encoding. -/
structure DecodeError where
  encoding : String
  position : Nat
  bytes : List UInt8
  problem : Problem
deriving DecidableEq, Repr

/-- Names the one ill-formed byte, or the places of the first and the last of several. -/
def DecodeError.text (e : DecodeError) : String :=
  let stretch := match e.bytes with
    | [b] =>
      "byte 0x" ++ String.ofList (hex 2 b.toNat) ++ " in position " ++ toString e.position
    | bytes =>
      "bytes in position " ++ toString e.position ++ "-"
        ++ toString (e.position + bytes.length - 1)
  "'" ++ e.encoding ++ "' codec can't decode " ++ stretch ++ ": " ++ e.problem.text

namespace Encoding

/-- Every character of the text, or the first ill-formed stretch that is no surrogate. The first
byte has the place `position`; `skip` bytes are passed over first. -/
def decodeStrict (e : Encoding) (position skip : Nat) :
    List UInt8 → Except DecodeError (List Char)
  | [] => .ok []
  | b :: rest =>
    match skip with
    | skip + 1 => decodeStrict e (position + 1) skip rest
    | 0 =>
      match e.piece b rest, e.surrogate? (b :: rest) with
      | .char c width, _ => (decodeStrict e (position + 1) (width - 1) rest).map (c :: ·)
      | .bad _ _, some (n, width) =>
        (decodeStrict e (position + 1) (width - 1) rest).map (ofCodePoint n :: ·)
      | .bad width problem, none => .error ⟨e.name, position, (b :: rest).take width, problem⟩

/-- The text with the replacement character in the place of each ill-formed stretch. -/
def decodeLenient (e : Encoding) (skip : Nat) : List UInt8 → List Char
  | [] => []
  | b :: rest =>
    match skip with
    | skip + 1 => decodeLenient e skip rest
    | 0 =>
      match e.piece b rest with
      | .char c width => c :: decodeLenient e (width - 1) rest
      | .bad width _ => '\uFFFD' :: decodeLenient e (width - 1) rest

end Encoding
end PagedQuery.Text
