import PagedQuery.Number.Basic
import PagedQuery.Value.Entries

/-!
Values: what queries, rows and replies are made of.
-/
namespace PagedQuery

inductive Value
  | null
  | bool (b : Bool)
  | int (n : Int)
  | real (x : Binary64)
  | string (s : String)
  | list (items : List Value)
  | object (entries : List (String × Value))
deriving Inhabited, Repr

/-- The values of an object under their names. -/
abbrev Fields := List (String × Value)

namespace Value

def number? : Value → Option Number
  | bool b => some (.flag b)
  | int n => some (.whole n)
  | real x => some (.real x)
  | _ => none

/-- Null, false, zero, and what has no members. -/
def isEmpty : Value → Bool
  | null => true
  | bool b => !b
  | int n => n == 0
  | real (.finite _ m _) => m == 0
  | real _ => false
  | string s => s.isEmpty
  | list items => items.isEmpty
  | object entries => entries.isEmpty

/-- What a value yields when it is gone through: the members of a list, the characters of a
string, the names of an object. Other values cannot be gone through. -/
def members? : Value → Option (List Value)
  | list items => some items
  | string s => some (s.toList.map fun c => string (String.singleton c))
  | object entries => some (entries.map fun p => string p.1)
  | _ => none

def typeName : Value → String
  | null => "NoneType"
  | bool _ => "bool"
  | int _ => "int"
  | real _ => "float"
  | string _ => "str"
  | list _ => "list"
  | object _ => "dict"

end Value
end PagedQuery
