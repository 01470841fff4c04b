import PagedQuery.Query.Field

/-!
Descriptions in full form: objects whose fields are read one by one, with everything that is
wrong with them reported in the order of the fields. Fields with a compound name have two
spellings, of which the one with an inner capital counts first.
-/
namespace PagedQuery

open Checked

namespace Description

def operatorNames : List String := ["equalityOperator", "equality_operator"]
def connectiveNames : List String := ["columnCompare", "column_compare"]
def orderNames : List String := ["orderBy", "order_by"]
def pageSizeNames : List String := ["itemsPerPage", "items_per_page"]

/-- The fields of an object; anything else is no description of the thing named. -/
def fieldsOf (model : String) (path : List Step) : Value → Checked Fields
  | .object fields => valid fields
  | _ => fail path (.modelType model)

def listOf {α : Type} (read : List Step → Value → Checked α) (path : List Step) :
    Value → Checked (List α)
  | .list items => Checked.list (fun i v => read (path ++ [.index i]) v) 0 items
  | _ => fail path .listType

/-- Entries that are all strings, each checked under its name. -/
def stringEntries (path : List Step) : Value → Checked (List (String × String))
  | .object fields =>
    Checked.list (fun _ (p : String × Value) =>
      (Field.string (path ++ [.name p.1]) p.2).map fun s => (p.1, s)) 0 fields
  | _ => fail path .dictType

def entries (path : List Step) : Value → Checked Fields
  | .object fields => valid fields
  | _ => fail path .dictType

end Description

open Description

def SortTerm.read (path : List Step) (v : Value) : Checked SortTerm :=
  (fieldsOf "OrderTerm" path v).andThen fun fields =>
    SortTerm.mk
      <$> Field.required path fields "column" Field.string
      <*> Field.orElse path fields ["direction"] .ascending (Field.keyword Direction)

def Filter.read (path : List Step) (v : Value) : Checked Filter :=
  (fieldsOf "ColumnGroup" path v).andThen fun fields =>
    Filter.mk
      <$> Field.orElse path fields ["columns"] [] entries
      <*> Field.orElse path fields operatorNames none (Field.optionalKeyword Operator)

def Join.read (path : List Step) (v : Value) : Checked Join :=
  (fieldsOf "JoinSpec" path v).andThen fun fields =>
    Join.mk
      <$> Field.required path fields "table" Field.tableName
      <*> Field.required path fields "on" stringEntries
      <*> Field.orElse path fields operatorNames .equal (Field.keyword Operator)
      <*> Field.orElse path fields ["type"] .left (Field.keyword JoinKind)

def Order.randomWord : String := "rand"

/-- Null, the word for a random order, or a list of terms. What is neither is reported as a
failure of both readings. -/
def Order.read (path : List Step) (v : Value) : Checked (Option Order) :=
  let terms := listOf SortTerm.read (path ++ [.name "list[OrderTerm]"]) v
  match v with
  | .null => valid none
  | .string s => if s = randomWord then valid (some .random) else failures path terms
  | _ =>
    match terms with
    | valid ts => valid (some (.by ts))
    | invalid _ => failures path terms
where
  failures (path : List Step) (terms : Checked (List SortTerm)) : Checked (Option Order) :=
    let found := match terms with
      | valid _ => []
      | invalid found => found
    invalid (⟨path ++ [.name "literal['rand']"], .literal [randomWord]⟩ :: found)

/-- Reads the fields of a query, its compound parts being checked already. -/
def Query.assemble (path : List Step) (fields : Fields) (filters : Checked (List Filter))
    (order : Checked (Option Order)) (joins : Checked (List Join)) : Checked Query :=
  Query.mk
    <$> Field.required path fields "table" Field.tableName
    <*> Field.orElse path fields ["prefix"] "server_" Field.string
    <*> filters
    <*> Field.orElse path fields connectiveNames .and (Field.keyword Connective)
    <*> Field.orElse path fields operatorNames .equal (Field.keyword Operator)
    <*> order
    <*> joins
    <*> Field.orElse path fields pageSizeNames 100 Field.pageSize
    <*> Field.orElse path fields ["page"] (.whole 1) Field.page
    <*> Field.orElse path fields ["mode"] none Field.optionalString

def Query.read (path : List Step) (v : Value) : Checked Query :=
  (fieldsOf "QuerySpec" path v).andThen fun fields =>
    Query.assemble path fields
      (Field.orElse path fields ["columns"] [] (listOf Filter.read))
      (Field.orElse path fields orderNames none Order.read)
      (Field.orElse path fields ["join"] [] (listOf Join.read))

end PagedQuery
