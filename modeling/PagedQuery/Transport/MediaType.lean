import PagedQuery.Text.Blank

/-!
Media types as messages name them: a type, then parameters after semicolons. A parameter has a
name and a value, which may stand in quotes.
-/
namespace PagedQuery.MediaType

/-- The parts of a text between semicolons. A semicolon inside quotes separates nothing, and a
quote after a backslash is none. -/
def parts (quoted escaped : Bool) : List Char → List (List Char)
  | [] => [[]]
  | c :: rest =>
    if c = ';' && !quoted then [] :: parts false false rest
    else
      let quoted := if c = '"' && !escaped then !quoted else quoted
      match parts quoted (c = '\\') rest with
      | part :: more => (c :: part) :: more
      | [] => [[c]]

def strip (cs : List Char) : List Char :=
  Text.dropRightWhile Text.isSpace (cs.dropWhile Text.isSpace)

def parameter (part : List Char) : List Char × List Char :=
  let name := part.takeWhile (· ≠ '=')
  ((strip name).map Char.toLower, strip (part.drop (name.length + 1)))

def isBetween (first last : Char) (cs : List Char) : Bool :=
  2 ≤ cs.length && cs.head? == some first && cs.getLast? == some last

/-- A value without the quotes or the angle brackets around it. Backslashes in it are kept; they
mean nothing in the name of a charset. -/
def unquote (cs : List Char) : List Char :=
  if isBetween '"' '"' cs || isBetween '<' '>' cs then (cs.drop 1).dropLast else cs

def charset? (text : String) : Option String :=
  let parameters := (parts false false text.toList).map parameter
  match parameters.find? fun p => p.1 = "charset".toList with
  | some (_, value) =>
    let name := unquote value
    if name.all fun c => c.toNat < 128 then some (String.ofList name) else none
  | none => none

end PagedQuery.MediaType
