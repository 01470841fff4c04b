import PagedQuery.Outside
import PagedQuery.Sql.Dialect

/-!
Checking statements and converting them to other dialects, with a parser outside the library.
-/
namespace PagedQuery.Dialect

variable [Runtime] {W : Type} (o : Outside W)

/-- The dialect that a statement is checked in. An empty name counts as none, and a name that is
not known stands for the dialect that statements are built in. -/
def checkTarget (d : Dialect) (asked : Option String) : Target :=
  let name := (asked.filter fun s => !s.isEmpty).getD d.name
  (Target.ofName? (Text.lower name)).getD d.target

def check (d : Dialect) (sql : String) (asked : Option String) :
    Act (Exchange W) (Option String) :=
  Act.rescue (do o.call (.parse sql (d.checkTarget asked).name); pure none) fun
    | .thrown t => if t.isParseFailure then pure (some t.text) else throw (.thrown t)
    | f => throw f

/-- The name of the dialect to convert to; one that is not known is left to the parser. -/
def convertTarget (name : String) : String :=
  match Target.ofName? (Text.lower name) with
  | some target => target.name
  | none => name

def convertFailure (name text : String) : Failure := .reported {
  kind := .sqlBuilder
  message := .string ("Failed to convert SQL to " ++ name ++ ": " ++ text) }

/-- The first statement that the converter returns. -/
def convert (d : Dialect) (sql name : String) : Act (Exchange W) String := do
  let call := o.call (.transpile sql d.target.name (convertTarget name))
  let statements ← call.rescue fun f => throw (convertFailure name f.text)
  match statements with
  | s :: _ => pure s
  | [] => throw (convertFailure name "list index out of range")

end PagedQuery.Dialect
