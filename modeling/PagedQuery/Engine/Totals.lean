import PagedQuery.Sql.Clause
import PagedQuery.Text.Case
import PagedQuery.Value.Whole

/-!
Totals: the count in the answer to a count statement, and the number of pages.
-/
namespace PagedQuery.Totals

/-- The column that holds the count: the one with its name, else the first whose name differs in
the case of letters only, else the first of all. -/
def countValue (fields : Fields) : Option Value :=
  match Entries.find? countAlias fields with
  | some v => some v
  | none =>
    match fields.find? fun p => Text.lower p.1 == Text.lower countAlias with
    | some p => some p.2
    | none => fields.head?.map Prod.snd

def occursIn (word : List Char) : List Char → Bool
  | [] => word.isEmpty
  | c :: rest => word.isPrefixOf (c :: rest) || occursIn word rest

/-- The count in a row; a row without columns counts zero. -/
def countOfRow : Value → Except Fault Int
  | .object fields =>
    match countValue fields with
    | some v => v.toWhole
    | none => .ok 0
  | .list items =>
    let named := items.any fun
      | .string s => s == countAlias
      | _ => false
    .error (if named then .wrongType else .missingAttribute)
  | .string s =>
    .error (if occursIn countAlias.toList s.toList then .wrongType else .missingAttribute)
  | _ => .error .wrongType

/-- The count in the first row of a reply; an empty reply counts zero. -/
def countOf (reply : Value) : Except Fault Int :=
  if reply.isEmpty then .ok 0
  else match reply with
    | .list (row :: _) => countOfRow row
    | .string s => countOfRow (.string (String.ofList (s.toList.take 1)))
    | .object _ => .error .missingKey
    | _ => .error .wrongType

/-- The number of pages: the binary quotient of the total and the size of a page, rounded up. -/
def pageCount (total pageSize : Int) : Except Fault Int :=
  match (Binary64.quotient total pageSize).ceil? with
  | some n => .ok n
  | none => .error .overflow

/-- What is logged of a count. -/
def logLine (table : String) (total pages : Int) : Except Fault String := do
  let totalText ← Number.wholeText total
  let pagesText ← Number.wholeText pages
  pure (table ++ ": " ++ totalText ++ " results over " ++ pagesText ++ " pages")

end PagedQuery.Totals
