import PagedQuery.Outside

/-!
Tables as database drivers give them: the names of the columns, and lists of values. A row
object has one entry for every name; of columns with the same name the last one counts.
-/
namespace PagedQuery.Table

def columnNames (columns : Columns) : List String := columns.getD []

def rowFields (names : List String) (values : List Value) : Fields :=
  Entries.ofPairs (names.zip values)

def rowObjects (names : List String) (data : List (List Value)) : Value :=
  .list (data.map fun values => .object (rowFields names values))

end PagedQuery.Table
