import PagedQuery.Text.Encoding

/-!
UTF-8. An ill-formed stretch is the longest start of a sequence that could still have become a
character, or one byte.
-/
namespace PagedQuery.Text

/-- What a lead byte says: how many bytes follow, which range the first of them keeps to, and the
value of the byte's own bits. -/
structure Utf8Lead where
  need : Nat
  low : Nat
  high : Nat
  bits : Nat

def utf8Lead? (b : UInt8) : Option Utf8Lead :=
  let n := b.toNat
  if 0xc2 ≤ n ∧ n ≤ 0xdf then some ⟨1, 0x80, 0xbf, n % 32⟩
  else if n = 0xe0 then some ⟨2, 0xa0, 0xbf, n % 16⟩
  else if n = 0xed then some ⟨2, 0x80, 0x9f, n % 16⟩
  else if 0xe1 ≤ n ∧ n ≤ 0xef then some ⟨2, 0x80, 0xbf, n % 16⟩
  else if n = 0xf0 then some ⟨3, 0x90, 0xbf, n % 8⟩
  else if n = 0xf4 then some ⟨3, 0x80, 0x8f, n % 8⟩
  else if 0xf1 ≤ n ∧ n ≤ 0xf3 then some ⟨3, 0x80, 0xbf, n % 8⟩
  else none

/-- Takes `need` continuation bytes; `seen` bytes are read and `code` is their value so far. -/
def utf8Rest (need seen code low high : Nat) (bytes : List UInt8) : Piece :=
  match need, bytes with
  | 0, _ => .char (Char.ofNat code) seen
  | _ + 1, [] => .bad seen .unexpectedEnd
  | need + 1, b :: rest =>
    if low ≤ b.toNat ∧ b.toNat ≤ high then
      utf8Rest need (seen + 1) (code * 64 + b.toNat % 64) 0x80 0xbf rest
    else .bad seen .invalidContinuation

def utf8Piece (first : UInt8) (rest : List UInt8) : Piece :=
  if first.toNat < 0x80 then .char (Char.ofNat first.toNat) 1
  else match utf8Lead? first with
    | none => .bad 1 .invalidStart
    | some lead => utf8Rest lead.need 1 lead.bits lead.low lead.high rest

/-- The surrogate that three bytes write in the manner of a character. -/
def utf8Surrogate? : List UInt8 → Option (Nat × Nat)
  | 0xed :: b :: c :: _ =>
    if 0xa0 ≤ b ∧ b ≤ 0xbf ∧ 0x80 ≤ c ∧ c ≤ 0xbf then
      some ((0xd * 64 + b.toNat % 64) * 64 + c.toNat % 64, 3)
    else none
  | _ => none

def utf8 : Encoding := ⟨"utf-8", utf8Piece, utf8Surrogate?⟩

end PagedQuery.Text
