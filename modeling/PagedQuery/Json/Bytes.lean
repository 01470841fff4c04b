import PagedQuery.Json.Reader
import PagedQuery.Text.Utf8
import PagedQuery.Text.Utf16

/-!
JSON in bytes. The encoding is told from a mark at the front, or else from where zeros stand among
the first four bytes: the first two characters of a JSON text are not zero.
-/
namespace PagedQuery.Json

open Text

structure Source where
  encoding : Encoding
  position : Nat
  bytes : List UInt8

/-- The encoding of a text without a mark. -/
def unmarked : List UInt8 → Encoding
  | 0 :: 0 :: _ :: _ :: _ => utf32 .big
  | 0 :: _ :: _ :: _ :: _ => utf16 .big
  | _ :: 0 :: 0 :: 0 :: _ => utf32 .little
  | _ :: 0 :: _ :: _ :: _ => utf16 .little
  | [0, _] => utf16 .big
  | [_, 0] => utf16 .little
  | _ => utf8

/-- How a text is encoded. A mark of UTF-8 is not counted in places, the others are. -/
def detect : List UInt8 → Source
  | 0 :: 0 :: 0xfe :: 0xff :: rest => ⟨utf32 .big, 4, rest⟩
  | 0xff :: 0xfe :: 0 :: 0 :: rest => ⟨utf32 .little, 4, rest⟩
  | 0xfe :: 0xff :: rest => ⟨utf16 .big, 2, rest⟩
  | 0xff :: 0xfe :: rest => ⟨utf16 .little, 2, rest⟩
  | 0xef :: 0xbb :: 0xbf :: rest => ⟨utf8, 0, rest⟩
  | bytes => ⟨unmarked bytes, 0, bytes⟩

inductive Obstacle
  | encoding (e : DecodeError)
  | text (characters : List Char) (r : Refusal)
deriving Repr

def Obstacle.message : Obstacle → String
  | encoding e => e.text
  | text characters r => r.text characters

def Obstacle.isDepth : Obstacle → Bool
  | text _ ⟨.tooDeep, _⟩ => true
  | _ => false

def readBytes (depth : Nat) (bytes : List UInt8) : Except Obstacle Value :=
  let source := detect bytes
  match source.encoding.decodeStrict source.position 0 source.bytes with
  | .error e => .error (.encoding e)
  | .ok characters => (read depth characters).mapError (.text characters)

end PagedQuery.Json
