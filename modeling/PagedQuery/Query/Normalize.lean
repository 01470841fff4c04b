import PagedQuery.Query.Description
import PagedQuery.Failure
import PagedQuery.Text.Case

/-!
Query objects as callers write them: a single object may stand for a list of one, and an order
may be written as an object of columns with their directions. Joins are looked at first, then
columns, then the order, each up to its first fault; the remaining fields are read last.
-/
namespace PagedQuery.Query

/-- The members of a list, or a single object as the only member; empty values have none. -/
def membersOf (message : String) (v : Value) : Except Failure (List Value) :=
  if v.isEmpty then .ok []
  else match v with
    | .object fields => .ok [.object fields]
    | .list items => .ok items
    | _ => .error (.queryConfig message)

variable [Runtime]

def joinMessage : String := "join must be an object or a list of objects"

def joinOf : Value → Except Failure Join
  | .object fields =>
    match Entries.find? "table" fields, Entries.find? "on" fields with
    | none, _ => .error (.queryConfig "JOIN was given without the \"table\" key")
    | some _, none => .error (.queryConfig "JOIN was given without the \"on\" key")
    | some table, some (.object _) =>
      match Join.read [] (.object fields) with
      | .valid join => .ok join
      | .invalid found =>
        .error (.naming table.text fun name => .refused ("Invalid join on table " ++ name) found)
    | some _, some _ =>
      .error (.queryConfig "JOIN \"on\" must map primary columns to joined columns")
  | _ => .error (.queryConfig joinMessage)

def joinsOf (v : Value) : Except Failure (List Join) := do
  (← membersOf joinMessage v).mapM joinOf

/-- Strings and finite numbers, which have a literal form. -/
def isScalar : Value → Bool
  | .string _ => true
  | .int _ => true
  | .real x => x.isFinite
  | _ => false

/-- A value that a column can be compared with: a scalar or a list of them. -/
def checkColumnValue (column : String) (v : Value) : Except Failure Unit :=
  if isScalar v then .ok ()
  else match v with
    | .list items =>
      match items.find? fun item => !isScalar item with
      | none => .ok ()
      | some item => .error (.naming item.quoted fun shown => .queryConfig
          ("Column " ++ column ++ " list values must be strings or numbers, got " ++ shown))
    | _ => .error (.naming v.quoted fun shown => .queryConfig
        ("Column " ++ column ++ " value must be a string, number or list, got " ++ shown))

def columnsMessage : String := "columns must be an object or a list of objects"

def operatorName : String := "equalityOperator"

def filterOf : Value → Except Failure Filter
  | .object fields => do
    let columns := Entries.erase operatorName fields
    columns.forM fun (column, v) => checkColumnValue column v
    let operator := (Entries.find? operatorName fields).getD .null
    match Field.optionalKeyword Operator [.name "equality_operator"] operator with
    | .valid operator => .ok ⟨columns, operator⟩
    | .invalid found => .error (.refused "Invalid column group" found)
  | _ => .error (.queryConfig columnsMessage)

def filtersOf (v : Value) : Except Failure (List Filter) := do
  (← membersOf columnsMessage v).mapM filterOf

/-- The entries of one object of an order list. -/
def orderEntries : Value → Except Failure Fields
  | .object fields => .ok fields
  | _ => .error (.queryConfig "orderBy list entries must be \x7bcolumn: order\x7d objects")

def termOf (entry : String × Value) : Except Failure SortTerm :=
  match entry.2.text with
  | .error f => .error (.fault f)
  | .ok word =>
    match Keyword.ofText? Direction (Text.upper word) with
    | some direction => .ok ⟨entry.1, direction⟩
    | none =>
      .error (.queryConfig ("orderBy direction for " ++ entry.1 ++ " must be ASC or DESC"))

def orderOfEntries (entries : Fields) : Except Failure (Option Order) :=
  if entries.isEmpty then .ok none
  else do
    let terms ← entries.mapM termOf
    pure (some (.by terms))

def orderOf : Value → Except Failure (Option Order)
  | .null => .ok none
  | .string s =>
    if s = Order.randomWord then .ok (some .random)
    else .error (.queryConfig ("Unsupported orderBy value: " ++ Text.quoted s))
  | .object fields => orderOfEntries fields
  | .list items => do orderOfEntries (← items.mapM orderEntries).flatten
  | _ => .error (.queryConfig "orderBy must be 'rand', an object, or a list of objects")

/-- The value under a name, null when there is none. -/
def valueAt (fields : Fields) (name : String) : Value := (Entries.find? name fields).getD .null

/-- The first order that is not null among the spellings. -/
def orderValue (fields : Fields) : Value :=
  match valueAt fields "orderBy" with
  | .null => valueAt fields "order_by"
  | v => v

/-- The query that an object written by a caller stands for. -/
def normalize : Value → Except Failure Query
  | .object fields => do
    if (Entries.find? "table" fields).isNone then
      throw (.queryConfig "Query requires a table key")
    let joins ← joinsOf (valueAt fields "join")
    let filters ← filtersOf (valueAt fields "columns")
    let order ← orderOf (orderValue fields)
    match Query.assemble [] fields (.valid filters) (.valid order) (.valid joins) with
    | .valid q => .ok q
    | .invalid found => .error (.refused "Invalid query object" found)
  | _ => .error (.queryConfig "Query requires a query object")

end PagedQuery.Query
