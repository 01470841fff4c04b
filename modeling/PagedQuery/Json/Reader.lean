import PagedQuery.Value.Basic
import PagedQuery.Text.Surrogate

/-!
Reading JSON text. The reader works on what is left of the text, and a refusal keeps the text
that was left where it arose, so that its place can be told afterwards. Entries keep the order of
the text; a name that comes again keeps its place and takes the later value. Numbers with a
fraction or an exponent are binary, all others whole; three names stand for the values that no
numeral writes.
-/
namespace PagedQuery.Json

inductive Problem
  | value
  | propertyName
  | colon
  | comma
  | openString
  | controlCharacter
  | escape
  | unicodeEscape
  | extraData
  /-- A whole number with more digits than are converted. -/
  | tooManyDigits (count : Nat)
  /-- A list or an object inside more others than are read. -/
  | tooDeep
deriving DecidableEq, Repr

structure Refusal where
  problem : Problem
  rest : List Char
deriving DecidableEq, Repr

/-- What was read, with the text after it. -/
abbrev Reading (α : Type) := Except Refusal (α × List Char)

def isSpace (c : Char) : Bool := c = ' ' || c = '\t' || c = '\n' || c = '\r'

def skipSpace (cs : List Char) : List Char := cs.dropWhile isSpace

def hexValue? (c : Char) : Option Nat :=
  if '0' ≤ c ∧ c ≤ '9' then some (c.toNat - '0'.toNat)
  else if 'a' ≤ c ∧ c ≤ 'f' then some (c.toNat - 'a'.toNat + 10)
  else if 'A' ≤ c ∧ c ≤ 'F' then some (c.toNat - 'A'.toNat + 10)
  else none

def hexFour? (cs : List Char) : Option Nat :=
  if cs.length = 4 then
    cs.foldl (fun n c => n.bind fun n => (hexValue? c).map (16 * n + ·)) (some 0)
  else none

def simpleEscape? : Char → Option Char
  | '"' => some '"'
  | '\\' => some '\\'
  | '/' => some '/'
  | 'b' => some '\x08'
  | 'f' => some '\x0c'
  | 'n' => some '\n'
  | 'r' => some '\r'
  | 't' => some '\t'
  | _ => none

/-- A second escape that completes the surrogate `high`; at least one character follows it. -/
def lowHalf? (cs : List Char) : Option (Except Refusal Nat) :=
  match cs with
  | '\\' :: 'u' :: rest =>
    if rest.length < 5 then none
    else match hexFour? (rest.take 4) with
      | some n => some (.ok n)
      | none => some (.error ⟨.unicodeEscape, 'u' :: rest⟩)
  | _ => none

/-- Reads an escape after its backslash: the character, and how many characters it takes.
`opening` is the text from the quote that opened the string, `here` that from the backslash. -/
def readEscape (opening here : List Char) : List Char → Except Refusal (Char × Nat)
  | [] => .error ⟨.openString, opening⟩
  | 'u' :: rest =>
    if rest.length < 5 then .error ⟨.unicodeEscape, 'u' :: rest⟩
    else match hexFour? (rest.take 4) with
      | none => .error ⟨.unicodeEscape, 'u' :: rest⟩
      | some n =>
        if Text.isHighSurrogate n then
          match lowHalf? (rest.drop 4) with
          | some (.error e) => .error e
          | some (.ok low) =>
            if Text.isLowSurrogate low then .ok (Text.ofSurrogates n low, 11)
            else .ok (Text.ofCodePoint n, 5)
          | none => .ok (Text.ofCodePoint n, 5)
        else .ok (Text.ofCodePoint n, 5)
  | c :: _ =>
    match simpleEscape? c with
    | some d => .ok (d, 1)
    | none => .error ⟨.escape, here⟩

/-- Reads up to the closing quote, passing over `skip` characters first. -/
def readString (opening : List Char) (skip : Nat) : List Char → Reading (List Char)
  | [] => .error ⟨.openString, opening⟩
  | c :: rest =>
    match skip with
    | skip + 1 => readString opening skip rest
    | 0 =>
      if c = '"' then .ok ([], rest)
      else if c = '\\' then
        match readEscape opening (c :: rest) rest with
        | .error e => .error e
        | .ok (d, width) => (readString opening width rest).map fun (cs, rest) => (d :: cs, rest)
      else if c.toNat < 0x20 then .error ⟨.controlCharacter, c :: rest⟩
      else (readString opening 0 rest).map fun (cs, rest) => (c :: cs, rest)

/-- The part of a numeral that `mark` begins, if a digit follows it. -/
def takePart (isMark : Char → Bool) (signed : Bool) (cs : List Char) : List Char × List Char :=
  match cs with
  | c :: rest =>
    let sign := if signed then rest.takeWhile (fun d => d = '+' || d = '-') |>.take 1 else []
    let digits := (rest.drop sign.length).takeWhile Decimal.isAsciiDigit
    if isMark c && !digits.isEmpty then
      (c :: (sign ++ digits), rest.drop (sign.length + digits.length))
    else ([], cs)
  | [] => ([], [])

/-- The whole part at the front of a numeral; a zero in front stands alone. -/
def leadingDigits : List Char → List Char
  | '0' :: _ => ['0']
  | cs => cs.takeWhile Decimal.isAsciiDigit

def readNumber (cs : List Char) : Reading Value :=
  let (sign, unsigned) := match cs with
    | '-' :: rest => (['-'], rest)
    | _ => ([], cs)
  let digits := leadingDigits unsigned
  if digits.isEmpty then .error ⟨.value, cs⟩
  else
    let (fraction, rest) := takePart (· = '.') false (unsigned.drop digits.length)
    let (exponent, rest) := takePart (fun c => c = 'e' || c = 'E') true rest
    if fraction.isEmpty && exponent.isEmpty then
      if Text.maxDigits < digits.length then .error ⟨.tooManyDigits digits.length, cs⟩
      else .ok (.int (Binary64.signed (!sign.isEmpty) (Decimal.asciiValue digits)), rest)
    else
      let numeral := Decimal.readUnsigned? (!sign.isEmpty) (digits ++ fraction ++ exponent)
      .ok (.real ((numeral.map Decimal.toBinary64).getD .nan), rest)

def words : List (String × Value) :=
  [("null", .null), ("true", .bool true), ("false", .bool false), ("NaN", .real .nan),
   ("Infinity", .real (.infinite false)), ("-Infinity", .real (.infinite true))]

def readWord? (cs : List Char) : Option (Value × List Char) :=
  words.findSome? fun (name, v) =>
    if name.toList.isPrefixOf cs then some (v, cs.drop name.length) else none

mutual

/-- Reads the value that begins a text, in which lists and objects lie inside one another up to a
depth; `fuel` bounds the length of the text. -/
def readValue (fuel depth : Nat) (cs : List Char) : Reading Value :=
  match fuel with
  | 0 => .error ⟨.value, cs⟩
  | fuel + 1 =>
    match cs, depth with
    | '"' :: rest, _ =>
      (readString cs 0 rest).map fun (s, rest) => (.string (String.ofList s), rest)
    | '[' :: _, 0 | '{' :: _, 0 => .error ⟨.tooDeep, cs⟩
    | '[' :: rest, depth + 1 =>
      match skipSpace rest with
      | ']' :: rest => .ok (.list [], rest)
      | rest => (readItems fuel depth rest).map fun (items, rest) => (.list items, rest)
    | '{' :: rest, depth + 1 =>
      match skipSpace rest with
      | '}' :: rest => .ok (.object [], rest)
      | rest =>
        (readMembers fuel depth rest).map fun (members, rest) =>
          (.object (Entries.ofPairs members), rest)
    | _, _ => match readWord? cs with
      | some r => .ok r
      | none => readNumber cs

def readItems (fuel depth : Nat) (cs : List Char) : Reading (List Value) :=
  match fuel with
  | 0 => .error ⟨.value, cs⟩
  | fuel + 1 =>
    match readValue fuel depth cs with
    | .error e => .error e
    | .ok (v, rest) =>
      match skipSpace rest with
      | ']' :: rest => .ok ([v], rest)
      | ',' :: rest =>
        (readItems fuel depth (skipSpace rest)).map fun (vs, rest) => (v :: vs, rest)
      | rest => .error ⟨.comma, rest⟩

def readMembers (fuel depth : Nat) (cs : List Char) : Reading (List (String × Value)) :=
  match fuel with
  | 0 => .error ⟨.value, cs⟩
  | fuel + 1 =>
    match cs with
    | '"' :: rest =>
      match readString cs 0 rest with
      | .error e => .error e
      | .ok (name, rest) =>
        match skipSpace rest with
        | ':' :: rest =>
          match readValue fuel depth (skipSpace rest) with
          | .error e => .error e
          | .ok (v, rest) =>
            let entry := (String.ofList name, v)
            match skipSpace rest with
            | '}' :: rest => .ok ([entry], rest)
            | ',' :: rest =>
              (readMembers fuel depth (skipSpace rest)).map fun (es, rest) => (entry :: es, rest)
            | rest => .error ⟨.comma, rest⟩
        | rest => .error ⟨.colon, rest⟩
    | _ => .error ⟨.propertyName, cs⟩

end

/-- The one value that a text holds, with lists and objects inside one another up to a depth. -/
def read (depth : Nat) (text : List Char) : Except Refusal Value :=
  match readValue (2 * text.length + 2) depth (skipSpace text) with
  | .error e => .error e
  | .ok (v, rest) =>
    match skipSpace rest with
    | [] => .ok v
    | rest => .error ⟨.extraData, rest⟩

def Problem.text : Problem → String
  | value => "Expecting value"
  | propertyName => "Expecting property name enclosed in double quotes"
  | colon => "Expecting ':' delimiter"
  | comma => "Expecting ',' delimiter"
  | openString => "Unterminated string starting at"
  | controlCharacter => "Invalid control character at"
  | escape => "Invalid \\escape"
  | unicodeEscape => "Invalid \\uXXXX escape"
  | extraData => "Extra data"
  | tooDeep => "Too many lists and objects inside one another"
  | tooManyDigits count =>
    "Exceeds the limit (" ++ toString Text.maxDigits
      ++ " digits) for integer string conversion: value has " ++ toString count
      ++ " digits; use sys.set_int_max_str_digits() to increase the limit"

/-- A refusal with its place: line and column from one, and the count of characters before. -/
def Refusal.text (text : List Char) (r : Refusal) : String :=
  match r.problem with
  | .tooManyDigits _ => r.problem.text
  | problem =>
    let before := text.take (text.length - r.rest.length)
    let line := before.count '\n' + 1
    let column := (before.reverse.takeWhile (· ≠ '\n')).length + 1
    problem.text ++ ": line " ++ toString line ++ " column " ++ toString column ++ " (char "
      ++ toString before.length ++ ")"

end PagedQuery.Json
