/-!
References to variables inside a value: `${NAME}` stands for the value of a variable, and
`${NAME:-text}` for `text` when there is no such variable. Whatever has another form stands for
itself.
-/
namespace PagedQuery

structure Reference where
  name : String
  /-- What stands for a variable that is not there. -/
  default : String
  /-- How many characters the reference takes after its dollar sign. -/
  width : Nat
deriving DecidableEq, Repr

namespace Reference

def read? : List Char → Option Reference
  | '{' :: rest =>
    let name := rest.takeWhile fun c => c ≠ ':' && c ≠ '}'
    match rest.drop name.length with
    | '}' :: _ => some ⟨String.ofList name, "", name.length + 2⟩
    | ':' :: '-' :: rest =>
      let default := rest.takeWhile (· ≠ '}')
      if default.length < rest.length then
        some ⟨String.ofList name, String.ofList default, name.length + default.length + 4⟩
      else none
    | _ => none
  | _ => none

/-- A text with what its references stand for in their place; `skip` characters are passed over
first. -/
def expand (value? : String → Option String) (skip : Nat) : List Char → List Char
  | [] => []
  | c :: rest =>
    match skip with
    | skip + 1 => expand value? skip rest
    | 0 =>
      match if c = '$' then read? rest else none with
      | some r => ((value? r.name).getD r.default).toList ++ expand value? r.width rest
      | none => c :: expand value? 0 rest

def expandText (value? : String → Option String) (s : String) : String :=
  String.ofList (expand value? 0 s.toList)

end Reference
end PagedQuery
