import PagedQuery.Transport.Http
import PagedQuery.Transport.Ipc
import PagedQuery.Transport.Sqlite
import PagedQuery.Transport.Duckdb
import PagedQuery.Settings.Basic

/-!
Transports: ways to have a statement run somewhere and to get its rows back.
-/
namespace PagedQuery

inductive Transport
  /-- A transport of the caller, under the name of its type and its mode. What it returns is
  taken as it is. -/
  | custom (typeName : String) (mode : String)
  /-- A function of the caller; what it returns is made a list. -/
  | function
  | http (t : Http)
  | ipc (t : Ipc)
  | sqlite (t : Sqlite)
  | duckdb (t : Duckdb)
deriving Repr

/-- What the members of a value are, as a list of their own. -/
def Value.listed (v : Value) : Except Failure (List Value) :=
  match v.members? with
  | some items => .ok items
  | none => .error (.fault .wrongType)

namespace Transport

variable [Runtime] {W : Type} (o : Outside W)

def send (sql : String) : Act (Transport × Exchange W) Value := do
  match (← get).1 with
  | custom .. => Act.second (o.call (.deliver sql))
  | function => do
    let rows ← Act.second (o.call (.deliver sql))
    let items ← Act.ofExcept rows.listed
    pure (.list items)
  | http t => Act.variant http t (Http.send o sql)
  | ipc t => Act.variant ipc t (Ipc.send o sql)
  | sqlite t => Act.variant sqlite t (Sqlite.send o sql)
  | duckdb t => Act.variant duckdb t (Duckdb.send o sql)

def close : Act (Transport × Exchange W) Unit := do
  match (← get).1 with
  | custom .. => Act.second (o.call .release)
  | function | ipc _ => pure ()
  | http t => Act.variant http t (Http.close o)
  | sqlite t => Act.variant sqlite t (Sqlite.close o)
  | duckdb t => Act.variant duckdb t (Duckdb.close o)

/-- Opens the connection of a database driver; other transports have none to open. -/
def connect : Act (Transport × Exchange W) Unit := do
  match (← get).1 with
  | sqlite t => Act.variant sqlite t (Sqlite.connect o)
  | duckdb t => Act.variant duckdb t (Duckdb.connect o)
  | _ => throw (.fault .missingAttribute)

/-- Sends one statement and closes the transport, whatever came of it. -/
def sendOnce (sql : String) : Act (Transport × Exchange W) Value :=
  Act.always (send o sql) (close o)

end Transport
end PagedQuery
