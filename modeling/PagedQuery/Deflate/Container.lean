import PagedQuery.Deflate.Block

/-!
Compressed data between a header and checks of what they hold, in the two usual forms.
-/
namespace PagedQuery.Deflate

/-- The two running sums of all bytes modulo 65521, in one number. -/
def adler32 (bytes : Array UInt8) : Nat :=
  let (a, b) := bytes.foldl (fun (a, b) x =>
    let a := (a + x.toNat) % 65521
    (a, (b + a) % 65521)) (1, 0)
  b * 65536 + a

/-- One step of the division of bits, the lowest first. -/
def crcBit (r : UInt32) : UInt32 := if r % 2 = 1 then (r >>> 1) ^^^ 0xedb88320 else r >>> 1

/-- The remainder of bytes as a polynomial over bits. -/
def crc32 (bytes : Array UInt8) : Nat :=
  let step (r : UInt32) (b : UInt8) : UInt32 :=
    (List.range 8).foldl (fun r _ => crcBit r) (r ^^^ b.toUInt32)
  (bytes.foldl step 0xffffffff ^^^ 0xffffffff).toNat

/-- The number in some bytes, the highest first. -/
def bigNumber (bytes : List UInt8) : Nat := bytes.foldl (fun n b => 256 * n + b.toNat) 0

def method : Nat := 8

/-- Data after two bytes of header and before the sums of their bytes. -/
def readSummed : Work Unit := do
  let first ← readByte
  let second ← readByte
  require ((256 * first.toNat + second.toNat) % 31 = 0) .header
  require (first.toNat % 16 = method) .method
  require (first.toNat / 16 ≤ 7) .windowSize
  if second.toNat.testBit 5 then
    discard (readBytes 4)
    damaged .dictionaryNeeded
  readData
  align
  let check ← readBytes 4
  require (bigNumber check = adler32 (← get).output) .dataCheck

/-- Passes over bytes up to a zero. -/
def skipText : Nat → Work Unit
  | 0 => throw .ended
  | fuel + 1 => do if (← readByte) = 0 then pure () else skipText fuel

def readFileHeader (bytes : List UInt8) : Work Unit := do
  let fuel := bytes.length + 1
  let magic ← readNumber 16
  require (magic = 0x8b1f) .header
  let chosen ← readNumber 8
  let flags ← readNumber 8
  require (chosen = method) .method
  require (flags < 32) .headerFlags
  discard (readBytes 6)
  if flags.testBit 2 then
    let length ← readNumber 16
    discard (readBytes length)
  if flags.testBit 3 then skipText fuel
  if flags.testBit 4 then skipText fuel
  if flags.testBit 1 then
    let left := (← get).bits.length / 8
    let header := bytes.take (bytes.length - left)
    let check ← readNumber 16
    require (check = crc32 header.toArray % 65536) .headerCheck

/-- Data after the header of a file, and before their remainder and their length. -/
def readFile (bytes : List UInt8) : Work Unit := do
  readFileHeader bytes
  readData
  align
  let check ← readNumber 32
  require (check = crc32 (← get).output) .dataCheck
  let length ← readNumber 32
  require (length = (← get).output.size % 4294967296) .lengthCheck

/-- The bytes that were written when reading came to its end or the data did. -/
def run (work : Work Unit) (bytes : List UInt8) : Except Damage (List UInt8) :=
  match work (State.ofBytes bytes) with
  | .ok _ s => .ok s.output.toList
  | .error .ended s => .ok s.output.toList
  | .error (.damaged d) _ => .error d

def Damage.detail : Damage → String
  | header => "incorrect header check"
  | method => "unknown compression method"
  | windowSize => "invalid window size"
  | headerFlags => "unknown header flags set"
  | headerCheck => "header crc mismatch"
  | dictionaryNeeded => "need dictionary"
  | blockType => "invalid block type"
  | storedLengths => "invalid stored block lengths"
  | tooManySymbols => "too many length or distance symbols"
  | codeLengths => "invalid code lengths set"
  | repeatedLength => "invalid bit length repeat"
  | noEndOfBlock => "invalid code -- missing end-of-block"
  | lengthCode => "invalid literal/lengths set"
  | distanceCode => "invalid distances set"
  | lengthSymbol => "invalid literal/length code"
  | distanceSymbol => "invalid distance code"
  | distanceTooFar => "invalid distance too far back"
  | dataCheck => "incorrect data check"
  | lengthCheck => "incorrect length check"

end PagedQuery.Deflate
