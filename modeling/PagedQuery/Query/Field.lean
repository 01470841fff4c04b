import PagedQuery.Query.Basic
import PagedQuery.Query.Numeral
import PagedQuery.Query.Violation

/-!
Reading single fields of a description. Numbers and truth values are also read from text and
from one another, as long as nothing of the value is lost.
-/
namespace PagedQuery.Field

open Checked

def string (path : List Step) : Value → Checked String
  | .string s => valid s
  | _ => fail path .stringType

def optionalString (path : List Step) : Value → Checked (Option String)
  | .null => valid none
  | v => some <$> string path v

def tableName (path : List Step) (v : Value) : Checked String :=
  (string path v).andThen fun s => if s.isEmpty then fail path .stringTooShort else valid s

def keyword (α : Type) [Keyword α] (path : List Step) (v : Value) : Checked α :=
  let known := match v with
    | .string s => Keyword.ofText? α s
    | _ => none
  match known with
  | some a => valid a
  | none => fail path (.literal ((Keyword.all : List α).map Keyword.text))

def optionalKeyword (α : Type) [Keyword α] (path : List Step) : Value → Checked (Option α)
  | .null => valid none
  | v => some <$> keyword α path v

def wholeOfText (path : List Step) (s : String) : Checked Int :=
  match Numeral.whole s.toList with
  | .number n => valid n
  | .tooLong => fail path .intTooLarge
  | .none => fail path .intParsing

/-- Binary numbers count as whole ones inside this bound on both sides. -/
def realLimit : Int := 9223372036854775808

def wholeOfReal (path : List Step) (x : Binary64) : Checked Int :=
  if !x.isFinite then fail path .notFinite
  else match x.whole? with
    | none => fail path .intFraction
    | some n => if -realLimit < n ∧ n < realLimit then valid n else fail path .intTooLarge

def whole (path : List Step) : Value → Checked Int
  | .int n => valid n
  | .bool b => valid (Number.bit b)
  | .real x => wholeOfReal path x
  | .string s => wholeOfText path s
  | _ => fail path .intType

def page (path : List Step) (v : Value) : Checked Number :=
  (whole path v).andThen fun n => if 1 ≤ n then valid (.whole n) else fail path .belowOne

def pageSize (path : List Step) (v : Value) : Checked Int :=
  (whole path v).andThen fun n => if n = -1 ∨ 1 ≤ n then valid n else fail path .pageSize

def realOfInt (path : List Step) (n : Int) : Checked Binary64 :=
  let x := Binary64.ofInt n
  if x.isFinite then valid x else fail path .realType

def real (path : List Step) : Value → Checked Binary64
  | .int n => realOfInt path n
  | .bool b => realOfInt path (Number.bit b)
  | .real x => valid x
  | .string s =>
    match Numeral.real? s.toList with
    | some x => valid x
    | none => fail path .realParsing
  | _ => fail path .realType

def positive (path : List Step) (v : Value) : Checked Binary64 :=
  (real path v).andThen fun x =>
    if x.compareInt? 0 = some .gt then valid x else fail path .notPositive

def falseWords : List String := ["0", "off", "f", "false", "n", "no"]
def trueWords : List String := ["1", "on", "t", "true", "y", "yes"]

def boolOfInt (path : List Step) (n : Int) : Checked Bool :=
  if n = 0 then valid false
  else if n = 1 then valid true
  else if -realLimit ≤ n ∧ n < realLimit then fail path .boolParsing
  else fail path .boolType

def bool (path : List Step) : Value → Checked Bool
  | .bool b => valid b
  | .int n => boolOfInt path n
  | .real x =>
    match x.whole? with
    | some n => boolOfInt path n
    | none => fail path .boolType
  | .string s =>
    let word := String.ofList (s.toList.map Char.toLower)
    if word ∈ falseWords then valid false
    else if word ∈ trueWords then valid true
    else fail path .boolParsing
  | _ => fail path .boolType

/-- The first of some names that is present, with its value. -/
def find? (fields : Fields) (names : List String) : Option (String × Value) :=
  names.findSome? fun name => (Entries.find? name fields).map fun v => (name, v)

def orElse {α : Type} (path : List Step) (fields : Fields) (names : List String) (default : α)
    (read : List Step → Value → Checked α) : Checked α :=
  match find? fields names with
  | some (name, v) => read (path ++ [.name name]) v
  | none => valid default

def required {α : Type} (path : List Step) (fields : Fields) (name : String)
    (read : List Step → Value → Checked α) : Checked α :=
  match Entries.find? name fields with
  | some v => read (path ++ [.name name]) v
  | none => fail (path ++ [.name name]) .missing

end PagedQuery.Field
