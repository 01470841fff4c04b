import PagedQuery.Deflate.Bits

/-!
Prefix codes that are given by the lengths of their words: words of one length are consecutive
numbers in the order of their symbols, and shorter words come before longer ones.
-/
namespace PagedQuery.Deflate

structure PrefixCode where
  /-- How many words there are of each length, from one bit on. -/
  counts : List Nat
  /-- The symbols in the order of their words. -/
  symbols : List Nat
deriving DecidableEq, Repr

namespace PrefixCode

/-- The words that are still free after all words of the lengths given, if there were enough. -/
def free? (free : Nat) : List Nat → Option Nat
  | [] => some free
  | count :: rest => if 2 * free < count then none else free? (2 * free - count) rest

def symbolsOf (lengths : List Nat) (length : Nat) : List Nat :=
  (lengths.zipIdx.filter fun p => p.1 = length).map Prod.snd

/-- The code with words of these lengths, where zero stands for no word. A code without words is
one bit wide. -/
def ofLengths (lengths : List Nat) : PrefixCode :=
  let longest := lengths.foldl (fun m n => if m < n then n else m) 1
  let all := (List.range longest).map (· + 1)
  ⟨all.map lengths.count, all.flatMap (symbolsOf lengths)⟩

def isComplete (code : PrefixCode) : Bool := free? 1 code.counts == some 0

/-- Whether a code has at most one word, of one bit. -/
def isSmall (code : PrefixCode) : Bool := code.counts == [0] || code.counts == [1]

/-- Reads the place of a word among all; `word` are the bits read so far, `first` is the first
word of this length without its last bit, and `before` counts the shorter words. -/
def readPlace (word first before : Nat) : List Nat → Work (Option Nat)
  | [] => pure none
  | count :: rest => do
    let word := 2 * word + (← readBit).toNat
    if word < first + count then pure (some (before + (word - first)))
    else readPlace word (2 * (first + count)) (before + count) rest

/-- Reads a word; bits that are none give nothing. -/
def readSymbol (code : PrefixCode) : Work (Option Nat) := do
  let place ← readPlace 0 0 0 code.counts
  pure (place.bind (code.symbols[·]?))

end PrefixCode
end PagedQuery.Deflate
