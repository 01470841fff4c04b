import Mathlib.Algebra.Ring.Int.Defs
import PagedQuery.Query.Normalize

/-! The grammar of query objects: what a caller may write, told apart from how it is read. -/
namespace PagedQuery.Grammar

def IsText (v : Value) : Prop := ∃ s, v = .string s

def OneOf (words : List String) (v : Value) : Prop := ∃ word ∈ words, v = .string word

def Required (fields : Fields) (name : String) (P : Value → Prop) : Prop :=
  ∃ v, Entries.find? name fields = some v ∧ P v

/-- The first of some names that an object has is that of an entry of this kind. -/
def Optional (fields : Fields) (names : List String) (P : Value → Prop) : Prop :=
  ∀ v, (names.findSome? fun name => Entries.find? name fields) = some v → P v

inductive Listed (P : Fields → Prop) : Value → Prop
  | nothing {v : Value} (empty : v.isEmpty = true) : Listed P v
  | single {fields : Fields} (object : P fields) : Listed P (.object fields)
  | list {items : List Value} (objects : ∀ v ∈ items, ∃ fields, v = .object fields ∧ P fields) :
    Listed P (.list items)

def operators : List String := ["=", "LIKE", "IN", "NOT IN"]

def IsName (v : Value) : Prop := ∃ s, v = .string s ∧ s ≠ ""

def IsPairing (v : Value) : Prop := ∃ entries, v = .object entries ∧ ∀ p ∈ entries, IsText p.2

structure JoinObject (fields : Fields) : Prop where
  table : Required fields "table" IsName
  on : Required fields "on" IsPairing
  operator : Optional fields ["equalityOperator", "equality_operator"] (OneOf operators)
  kind : Optional fields ["type"] (OneOf ["LEFT JOIN", "INNER JOIN", "CROSS JOIN"])

inductive Scalar : Value → Prop
  | string (s : String) : Scalar (.string s)
  | int (n : Int) : Scalar (.int n)
  | real {x : Binary64} (finite : x.isFinite = true) : Scalar (.real x)

inductive Comparand : Value → Prop
  | scalar {v : Value} (h : Scalar v) : Comparand v
  | list {items : List Value} (h : ∀ v ∈ items, Scalar v) : Comparand (.list items)

structure FilterObject (fields : Fields) : Prop where
  -- `equality_operator` is a column here, unlike in a join
  columns : ∀ p ∈ fields, p.1 ≠ "equalityOperator" → Comparand p.2
  operator : Optional fields ["equalityOperator"] fun v => v = .null ∨ OneOf operators v

def IsDirection (v : Value) : Prop :=
  ∃ s, v = .string s ∧ (Text.upper s = "ASC" ∨ Text.upper s = "DESC")

inductive IsOrder : Value → Prop
  | absent : IsOrder .null
  | random : IsOrder (.string "rand")
  | object {entries : Fields} (directions : ∀ p ∈ entries, IsDirection p.2) :
    IsOrder (.object entries)
  | list {items : List Value} (objects : ∀ v ∈ items, ∃ entries, v = .object entries ∧
      ∀ p ∈ entries, IsDirection p.2) : IsOrder (.list items)

inductive Whole : Value → Int → Prop
  | int (n : Int) : Whole (.int n) n
  | bool (b : Bool) : Whole (.bool b) (if b then 1 else 0)
  | real {x : Binary64} {n : Int} (integral : x.whole? = some n)
    (inside : -2 ^ 63 < n ∧ n < 2 ^ 63) : Whole (.real x) n
  | text {s : String} {n : Int} (numeral : Numeral.whole s.toList = .number n) :
    Whole (.string s) n

def IsPageSize (v : Value) : Prop := ∃ n, Whole v n ∧ (n = -1 ∨ 1 ≤ n)

def IsPage (v : Value) : Prop := ∃ n, Whole v n ∧ 1 ≤ n

structure Remaining (fields : Fields) : Prop where
  table : Required fields "table" IsName
  tablePrefix : Optional fields ["prefix"] IsText
  connective : Optional fields ["columnCompare", "column_compare"] (OneOf ["AND", "OR"])
  operator : Optional fields ["equalityOperator", "equality_operator"] (OneOf operators)
  pageSize : Optional fields ["itemsPerPage", "items_per_page"] IsPageSize
  page : Optional fields ["page"] IsPage
  mode : Optional fields ["mode"] fun v => v = .null ∨ IsText v

structure QueryObject (fields : Fields) : Prop extends Remaining fields where
  joins : Optional fields ["join"] (Listed JoinObject)
  filters : Optional fields ["columns"] (Listed FilterObject)
  order : IsOrder (Query.orderValue fields)

def Accepted (v : Value) : Prop := ∃ fields, v = .object fields ∧ QueryObject fields

end PagedQuery.Grammar
