/-!
Compressed data as bits, the lowest of each byte first. Reading stops where the data are damaged
or come to an end; the bytes written until then are kept.
-/
namespace PagedQuery.Deflate

inductive Damage
  | header
  | method
  | windowSize
  | headerFlags
  | headerCheck
  | dictionaryNeeded
  | blockType
  | storedLengths
  | tooManySymbols
  | codeLengths
  | repeatedLength
  | noEndOfBlock
  | lengthCode
  | distanceCode
  | lengthSymbol
  | distanceSymbol
  | distanceTooFar
  | dataCheck
  | lengthCheck
deriving DecidableEq, Repr

inductive Stop
  | ended
  | damaged (d : Damage)
deriving DecidableEq, Repr

structure State where
  bits : List Bool
  output : Array UInt8

/-- A step of reading. What was written before it stopped is in the state. -/
abbrev Work := EStateM Stop State

def byteBits (b : UInt8) : List Bool := (List.range 8).map b.toNat.testBit

def State.ofBytes (bytes : List UInt8) : State := ⟨bytes.flatMap byteBits, #[]⟩

def damaged {α : Type} (d : Damage) : Work α := throw (.damaged d)

def require (ok : Bool) (d : Damage) : Work Unit := if ok then pure () else damaged d

def readBit : Work Bool := fun s =>
  match s.bits with
  | [] => .error .ended s
  | b :: rest => .ok b { s with bits := rest }

/-- Reads a number of some bits, the lowest first. -/
def readNumber : Nat → Work Nat
  | 0 => pure 0
  | count + 1 => do
    let low ← readBit
    let high ← readNumber count
    pure (low.toNat + 2 * high)

def readByte : Work UInt8 := UInt8.ofNat <$> readNumber 8

def readBytes : Nat → Work (List UInt8)
  | 0 => pure []
  | count + 1 => do
    let first ← readByte
    let rest ← readBytes count
    pure (first :: rest)

def align : Work Unit := modify fun s => { s with bits := s.bits.drop (s.bits.length % 8) }

def write (b : UInt8) : Work Unit := modify fun s => { s with output := s.output.push b }

def copyBack (distance : Nat) : Nat → Work Unit
  | 0 => pure ()
  | count + 1 => do
    let output := (← get).output
    write ((output[output.size - distance]?).getD 0)
    copyBack distance count

end PagedQuery.Deflate
