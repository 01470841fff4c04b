import PagedQuery.Deflate.PrefixCode

/-!
Blocks of compressed data: bytes as they are, or words of two prefix codes. A word of the first
stands for a byte, for the end of the block, or for the length of a stretch that was written
before; a word of the second follows a length and says how far back the stretch begins.
-/
namespace PagedQuery.Deflate

/-- Codes for bytes and lengths, and for distances. -/
structure Codes where
  lengths : PrefixCode
  distances : PrefixCode

/-- The least length for each word from 257 on, and how many bits are added to it. -/
def lengthRanges : List (Nat × Nat) :=
  [(3, 0), (4, 0), (5, 0), (6, 0), (7, 0), (8, 0), (9, 0), (10, 0), (11, 1), (13, 1), (15, 1),
   (17, 1), (19, 2), (23, 2), (27, 2), (31, 2), (35, 3), (43, 3), (51, 3), (59, 3), (67, 4),
   (83, 4), (99, 4), (115, 4), (131, 5), (163, 5), (195, 5), (227, 5), (258, 0)]

/-- The least distance for each word, and how many bits are added to it. -/
def distanceRanges : List (Nat × Nat) :=
  [(1, 0), (2, 0), (3, 0), (4, 0), (5, 1), (7, 1), (9, 2), (13, 2), (17, 3), (25, 3), (33, 4),
   (49, 4), (65, 5), (97, 5), (129, 6), (193, 6), (257, 7), (385, 7), (513, 8), (769, 8),
   (1025, 9), (1537, 9), (2049, 10), (3073, 10), (4097, 11), (6145, 11), (8193, 12), (12289, 12),
   (16385, 13), (24577, 13)]

def readInRange (range : Option (Nat × Nat)) (d : Damage) : Work Nat :=
  match range with
  | some (least, bits) => (least + ·) <$> readNumber bits
  | none => damaged d

def endOfBlock : Nat := 256

def copyStretch (distances : PrefixCode) (length : Nat) : Work Unit := do
  let word ← distances.readSymbol
  let distance ← readInRange (word.bind (distanceRanges[·]?)) .distanceSymbol
  require (distance ≤ (← get).output.size) .distanceTooFar
  copyBack distance length

/-- Reads words up to the end of the block, at most `fuel` of them. -/
def readWords (codes : Codes) : Nat → Work Unit
  | 0 => throw .ended
  | fuel + 1 => do
    match ← codes.lengths.readSymbol with
    | none => damaged .lengthSymbol
    | some word =>
      if word = endOfBlock then pure ()
      else
        if word < endOfBlock then write (UInt8.ofNat word)
        else
          let range := lengthRanges[word - endOfBlock - 1]?
          copyStretch codes.distances (← readInRange range .lengthSymbol)
        readWords codes fuel

/-- The codes of blocks that bring none. -/
def fixedCodes : Codes :=
  let row (count length : Nat) := List.replicate count length
  ⟨.ofLengths (row 144 8 ++ row 112 9 ++ row 24 7 ++ row 8 8), .ofLengths (row 32 5)⟩

/-- The order in which the lengths of the words for lengths are written. -/
def lengthOrder : List Nat := [16, 17, 18, 0, 8, 7, 9, 6, 10, 5, 11, 4, 12, 3, 13, 2, 14, 1, 15]

/-- What a word for lengths is followed by: the length that it repeats, and how often. -/
def readRepeat (word : Nat) (previous : Option Nat) : Work (Nat × Nat) := do
  if word < 16 then pure (word, 1)
  else if word = 16 then
    let count ← readNumber 2
    match previous with
    | some length => pure (length, 3 + count)
    | none => damaged .repeatedLength
  else if word = 17 then
    pure (0, 3 + (← readNumber 3))
  else
    pure (0, 11 + (← readNumber 7))

/-- Reads lengths until there are as many as wanted; `fuel` bounds the words. A word that is none
stands for no length. -/
def readLengths (code : PrefixCode) (wanted : Nat) (lengths : List Nat) : Nat → Work (List Nat)
  | 0 => throw .ended
  | fuel + 1 =>
    if wanted ≤ lengths.length then pure lengths
    else do
      let word ← code.readSymbol
      let (length, count) ← readRepeat (word.getD 0) lengths.getLast?
      require (lengths.length + count ≤ wanted) .repeatedLength
      readLengths code wanted (lengths ++ List.replicate count length) fuel

def readCodes : Work Codes := do
  let forLengths := 257 + (← readNumber 5)
  let forDistances := 1 + (← readNumber 5)
  let given := 4 + (← readNumber 4)
  require (forLengths ≤ 286 && forDistances ≤ 30) .tooManySymbols
  let short ← (List.range given).mapM fun _ => readNumber 3
  let table := lengthOrder.zip short
  let code := PrefixCode.ofLengths ((List.range 19).map fun n => (table.lookup n).getD 0)
  require (code.isComplete || code.counts == [0]) .codeLengths
  let wanted := forLengths + forDistances
  let lengths ← readLengths code wanted [] (wanted + 1)
  require ((lengths[endOfBlock]?).getD 0 != 0) .noEndOfBlock
  let codes : Codes := ⟨.ofLengths (lengths.take forLengths), .ofLengths (lengths.drop forLengths)⟩
  require (codes.lengths.isComplete || codes.lengths.isSmall) .lengthCode
  require (codes.distances.isComplete || codes.distances.isSmall) .distanceCode
  pure codes

def copyBytes : Nat → Work Unit
  | 0 => pure ()
  | count + 1 => do
    write (← readByte)
    copyBytes count

def readStored : Work Unit := do
  align
  let length ← readNumber 16
  let complement ← readNumber 16
  require (length + complement = 65535) .storedLengths
  copyBytes length

def readBlock : Work Bool := do
  let last ← readBit
  let fuel := (← get).bits.length + 1
  match ← readNumber 2 with
  | 0 => readStored
  | 1 => readWords fixedCodes fuel
  | 2 => do readWords (← readCodes) fuel
  | _ => damaged .blockType
  pure last

def readBlocks : Nat → Work Unit
  | 0 => throw .ended
  | fuel + 1 => do if ← readBlock then pure () else readBlocks fuel

def readData : Work Unit := do readBlocks ((← get).bits.length + 1)

end PagedQuery.Deflate
