import PagedQuery.Failure
import PagedQuery.Query.Basic
import PagedQuery.Sql.Dialect

/-!
The clauses of a statement. Values are written into the text as literals, so only queries from
a trusted source may be written; a value without a text cannot be written at all. An absent clause
is the empty text.
-/
namespace PagedQuery

/-- The texts in order, with `sep` between each and the next. -/
def joinWith (sep : String) : List String → String
  | [] => ""
  | [s] => s
  | s :: rest => s ++ sep ++ joinWith sep rest

/-- The name under which a joined row keeps the id of the main table. -/
def rowIdAlias : String := "_primaryTableRowId"

/-- The name of the count in the answer to a count statement. -/
def countAlias : String := "numItems"

structure Predicate where
  column : String
  operator : Operator
  value : Value
deriving Repr

variable [Runtime]

namespace Sql

def listItem : Value → Except Fault String
  | .string s => .ok ("\"" ++ s ++ "\"")
  | v => v.text

/-- A value as a literal: strings in single quotes, inside lists in double ones. -/
def literal : Value → Except Fault String
  | .string s => .ok ("'" ++ s ++ "'")
  | .list items => do
    let texts ← items.mapM listItem
    pure ("(" ++ joinWith "," texts ++ ")")
  | v => v.text

end Sql

namespace Query

open Sql

/-- The comparisons of all filters in order, each with the operator that counts for it. -/
def predicates (q : Query) : List Predicate :=
  q.filters.flatMap fun f =>
    f.columns.map fun p => ⟨p.1, f.operator.getD q.operator, p.2⟩

/-- A column with a point in its name is qualified already and only gets the prefix. -/
def columnText (q : Query) (column : String) : String :=
  if column.toList.contains '.' then q.tablePrefix ++ column else column

def predicateText (q : Query) (p : Predicate) : Except Fault String := do
  let value ← literal p.value
  pure (q.columnText p.column ++ " " ++ Keyword.text p.operator ++ " " ++ value)

def selectClause (q : Query) : String :=
  if q.isJoined then "SELECT " ++ q.qualifiedTable ++ ".id AS " ++ rowIdAlias ++ ", *"
  else "SELECT *"

def countProjection : String := "SELECT COUNT(*) AS " ++ countAlias

def fromClause (q : Query) : String := "FROM " ++ q.qualifiedTable

/-- One join: its table, then a line for every pair of columns. -/
def joinLines (q : Query) (j : Join) : List String :=
  let joined := q.tablePrefix ++ j.table
  (Keyword.text j.kind ++ " " ++ joined) ::
    j.on.map fun p => "ON " ++ q.qualifiedTable ++ "." ++ p.1 ++ " " ++ Keyword.text j.operator
      ++ " " ++ joined ++ "." ++ p.2

def joinClause (q : Query) : String := joinWith " " (q.joins.flatMap q.joinLines)

def whereClause (q : Query) : Except Fault String :=
  if q.predicates.isEmpty then .ok ""
  else do
    let texts ← q.predicates.mapM q.predicateText
    pure ("WHERE " ++ joinWith (" " ++ Keyword.text q.connective ++ " ") texts)

/-- Ordering is case insensitive. -/
def termText (t : SortTerm) : String :=
  t.column ++ " COLLATE NOCASE " ++ Keyword.text t.direction

def orderClause (d : Dialect) (q : Query) : String :=
  match q.order with
  | none => ""
  | some .random => "ORDER BY " ++ d.target.randomCall
  | some (.by []) => ""
  | some (.by terms) => "ORDER BY " ++ joinWith ", " (terms.map termText)

def limitClause (q : Query) : Except Fault String :=
  if q.isUnbounded then .ok ""
  else do
    let text ← Number.wholeText q.pageSize
    pure ("LIMIT " ++ text)

/-- The count of rows before the page, in the arithmetic of the page number. -/
def offset (q : Query) : Except Fault Number :=
  match q.page with
  | .whole n => .ok (.whole (n * q.pageSize - q.pageSize))
  | .flag b => .ok (.whole (Number.bit b * q.pageSize - q.pageSize))
  | .real x =>
    let size := Binary64.ofInt q.pageSize
    if size.isFinite then .ok (.real ((x.mul size).sub size)) else .error .overflow

/-- There is none on the first page. -/
def offsetClause (q : Query) : Except Fault String :=
  if q.isUnbounded || q.page.isInt 1 then .ok ""
  else do
    let skipped ← q.offset
    let text ← skipped.text
    pure ("OFFSET " ++ text)

end Query
end PagedQuery
