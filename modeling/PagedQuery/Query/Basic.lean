import PagedQuery.Value.Basic

/-!
Queries: which rows of which tables are wanted, in which order, and which page of them.
-/
namespace PagedQuery

/-- A closed set of words. -/
class Keyword (α : Type) where
  all : List α
  text : α → String

def Keyword.ofText? (α : Type) [Keyword α] (s : String) : Option α :=
  (all : List α).find? fun a => text a == s

inductive Operator
  | equal
  | like
  | oneOf
  | noneOf
deriving DecidableEq, Repr, Inhabited

instance : Keyword Operator where
  all := [.equal, .like, .oneOf, .noneOf]
  text
    | .equal => "="
    | .like => "LIKE"
    | .oneOf => "IN"
    | .noneOf => "NOT IN"

inductive Connective
  | and
  | or
deriving DecidableEq, Repr, Inhabited

instance : Keyword Connective where
  all := [.and, .or]
  text
    | .and => "AND"
    | .or => "OR"

inductive JoinKind
  | left
  | inner
  | cross
deriving DecidableEq, Repr, Inhabited

instance : Keyword JoinKind where
  all := [.left, .inner, .cross]
  text
    | .left => "LEFT JOIN"
    | .inner => "INNER JOIN"
    | .cross => "CROSS JOIN"

inductive Direction
  | ascending
  | descending
deriving DecidableEq, Repr, Inhabited

instance : Keyword Direction where
  all := [.ascending, .descending]
  text
    | .ascending => "ASC"
    | .descending => "DESC"

/-- Columns with the values they are compared with; without an operator the query's counts. -/
structure Filter where
  columns : Fields
  operator : Option Operator
deriving Inhabited, Repr

/-- A further table, with pairs of a column of the main table and one of the joined table. -/
structure Join where
  table : String
  on : List (String × String)
  operator : Operator
  kind : JoinKind
deriving DecidableEq, Inhabited, Repr

structure SortTerm where
  column : String
  direction : Direction
deriving DecidableEq, Inhabited, Repr

inductive Order
  | random
  | by (terms : List SortTerm)
deriving DecidableEq, Inhabited, Repr

structure Query where
  table : String
  tablePrefix : String
  filters : List Filter
  connective : Connective
  operator : Operator
  order : Option Order
  joins : List Join
  /-- Rows on a page; -1 puts all rows on one page. -/
  pageSize : Int
  page : Number
  mode : Option String
deriving Inhabited, Repr

namespace Query

def qualifiedTable (q : Query) : String := q.tablePrefix ++ q.table

def isJoined (q : Query) : Bool := !q.joins.isEmpty

def isUnbounded (q : Query) : Bool := q.pageSize == -1

end Query
end PagedQuery
