/-!
Surrogates: the numbers from 0xd800 to 0xdfff. A high one and a low one together write a character
above 0xffff; on its own a surrogate is no character, but text from outside may hold one. Strings
here hold characters only, so such a surrogate is carried by the private character that is 0x100000
above it.
-/
namespace PagedQuery.Text

def isHighSurrogate (n : Nat) : Bool := 0xd800 ≤ n && n < 0xdc00

def isLowSurrogate (n : Nat) : Bool := 0xdc00 ≤ n && n < 0xe000

def isSurrogate (n : Nat) : Bool := isHighSurrogate n || isLowSurrogate n

/-- The character that a high and a low surrogate write together. -/
def ofSurrogates (high low : Nat) : Char :=
  Char.ofNat (0x10000 + (high - 0xd800) * 0x400 + (low - 0xdc00))

/-- How far above a surrogate the character lies that carries it. -/
def carrierOffset : Nat := 0x100000

/-- The character with a number, or the one that carries a surrogate. -/
def ofCodePoint (n : Nat) : Char := Char.ofNat (if isSurrogate n then carrierOffset + n else n)

/-- The surrogate that a character carries. -/
def carried? (c : Char) : Option Nat :=
  let n := c.toNat - carrierOffset
  if isSurrogate n then some n else none

end PagedQuery.Text
