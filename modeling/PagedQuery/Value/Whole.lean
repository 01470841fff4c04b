import PagedQuery.Value.Basic
import PagedQuery.Failure

/-!
Whole numbers from values: fractions are cut off, and text is read as a numeral.
-/
namespace PagedQuery.Value

def toWhole : Value → Except Fault Int
  | int n => .ok n
  | bool b => .ok (Number.bit b)
  | real .nan => .error .wrongValue
  | real x =>
    match x.truncate? with
    | some n => .ok n
    | none => .error .overflow
  | string s =>
    match Text.wholeNumeral? s.toList with
    | some n => .ok n
    | none => .error .wrongValue
  | _ => .error .wrongType

end PagedQuery.Value
