import PagedQuery.Value.Text

/-!
Violations: what is wrong with a description, and where. Checking goes through all parts of a
description and collects what it finds, in order.
-/
namespace PagedQuery

inductive Step
  | name (s : String)
  | index (i : Nat)
deriving DecidableEq, Repr

inductive Rule
  | missing
  | stringType
  | stringTooShort
  | literal (expected : List String)
  | listType
  | dictType
  | modelType (model : String)
  | belowOne
  | pageSize
  | intType
  | intParsing
  | intTooLarge
  | intFraction
  | notFinite
  | realType
  | realParsing
  | notPositive
  | boolType
  | boolParsing
deriving DecidableEq, Repr

namespace Rule

def code : Rule → String
  | missing => "missing"
  | stringType => "string_type"
  | stringTooShort => "string_too_short"
  | literal _ => "literal_error"
  | listType => "list_type"
  | dictType => "dict_type"
  | modelType _ => "model_type"
  | belowOne => "greater_than_equal"
  | pageSize => "value_error"
  | intType => "int_type"
  | intParsing => "int_parsing"
  | intTooLarge => "int_parsing_size"
  | intFraction => "int_from_float"
  | notFinite => "finite_number"
  | realType => "float_type"
  | realParsing => "float_parsing"
  | notPositive => "greater_than"
  | boolType => "bool_type"
  | boolParsing => "bool_parsing"

/-- Words in single quotes, commas between them and "or" before the last. -/
def alternatives : List String → String
  | [] => ""
  | [s] => "'" ++ s ++ "'"
  | [s, t] => "'" ++ s ++ "' or '" ++ t ++ "'"
  | s :: rest => "'" ++ s ++ "', " ++ alternatives rest

def message : Rule → String
  | missing => "Field required"
  | stringType => "Input should be a valid string"
  | stringTooShort => "String should have at least 1 character"
  | literal expected => "Input should be " ++ alternatives expected
  | listType => "Input should be a valid list"
  | dictType => "Input should be a valid dictionary"
  | modelType model => "Input should be a valid dictionary or instance of " ++ model
  | belowOne => "Input should be greater than or equal to 1"
  | pageSize => "Value error, itemsPerPage must be -1 or a positive integer"
  | intType => "Input should be a valid integer"
  | intParsing => "Input should be a valid integer, unable to parse string as an integer"
  | intTooLarge => "Unable to parse input string as an integer, exceeded maximum size"
  | intFraction => "Input should be a valid integer, got a number with a fractional part"
  | notFinite => "Input should be a finite number"
  | realType => "Input should be a valid number"
  | realParsing => "Input should be a valid number, unable to parse string as a number"
  | notPositive => "Input should be greater than 0"
  | boolType => "Input should be a valid boolean"
  | boolParsing => "Input should be a valid boolean, unable to interpret input"

end Rule

structure Violation where
  path : List Step
  rule : Rule
deriving DecidableEq, Repr

/-- A checked value, or everything that was found wrong. -/
inductive Checked (α : Type)
  | valid (a : α)
  | invalid (found : List Violation)
deriving Repr

namespace Checked

variable {α β : Type}

def map (f : α → β) : Checked α → Checked β
  | valid a => valid (f a)
  | invalid found => invalid found

/-- Both sides are checked, and what is wrong with the left comes first. -/
def apply (f : Checked (α → β)) (x : Checked α) : Checked β :=
  match f, x with
  | valid f, valid a => valid (f a)
  | valid _, invalid found => invalid found
  | invalid found, valid _ => invalid found
  | invalid found, invalid more => invalid (found ++ more)

instance : Functor Checked := ⟨fun f x => x.map f, fun a x => x.map fun _ => a⟩

instance : Pure Checked := ⟨valid⟩

instance : Seq Checked := ⟨fun f x => f.apply (x ())⟩

/-- A further demand on a valid value. -/
def andThen (x : Checked α) (f : α → Checked β) : Checked β :=
  match x with
  | valid a => f a
  | invalid found => invalid found

def fail (path : List Step) (rule : Rule) : Checked α := invalid [⟨path, rule⟩]

/-- Every element is checked, under the number of its place from `i` on. -/
def list (check : Nat → α → Checked β) (i : Nat) : List α → Checked (List β)
  | [] => valid []
  | a :: rest => List.cons <$> check i a <*> list check (i + 1) rest

def toExcept : Checked α → Except (List Violation) α
  | valid a => .ok a
  | invalid found => .error found

end Checked
end PagedQuery
