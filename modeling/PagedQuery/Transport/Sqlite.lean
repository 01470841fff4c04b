import PagedQuery.Transport.Table

/-!
Statements run by the SQLite driver. The connection is opened at the first statement and kept;
every statement has a cursor of its own.
-/
namespace PagedQuery

structure Sqlite where
  database : String
  readOnly : Bool
  /-- Seconds, in the form in which they were given. -/
  timeout : Value
  connected : Bool
deriving Repr

namespace Sqlite

def mode : String := "sqlite"

def inMemory : String := ":memory:"

structure Options where
  database : String := inMemory
  readOnly : Bool := false
  timeout : Value := .real (Binary64.ofInt 30)
deriving Repr

def make (o : Options) : Sqlite := ⟨o.database, o.readOnly, o.timeout, false⟩

/-- What is opened, and whether that is an address: a file that is only read is opened by an
address that says so. -/
def source (t : Sqlite) : String × Bool :=
  if t.readOnly && t.database != inMemory then ("file:" ++ t.database ++ "?mode=ro", true)
  else (t.database, false)

def connectFailure : Failure → Failure
  | .thrown e =>
    if e.isSqliteFailure then
      .ofTransport .connection mode ("Failed to connect to SQLite: " ++ e.text) (some (.thrown e))
    else .thrown e
  | f => f

def queryFailure : Failure → Failure
  | .thrown e =>
    if e.isSqliteFailure then
      .ofTransport .query mode ("SQLite query failed: " ++ e.text) (some (.thrown e))
    else .thrown e
  | f => f

variable {W : Type} (o : Outside W)

def connect : Act (Sqlite × Exchange W) Unit := do
  let (t, _) ← get
  if !t.connected then
    let opening := o.call (.openSqlite t.source.1 t.source.2 t.timeout)
    (Act.second opening).rescue fun f => throw (connectFailure f)
    modify fun (t, x) => ({ t with connected := true }, x)

def runCursor (sql : String) : Act (Exchange W) Value := do
  let columns ← o.call (.runCursor sql)
  let names := Table.columnNames columns
  if names.isEmpty then pure (.list [])
  else
    let data ← o.call .fetchCursor
    pure (Table.rowObjects names data)

def run (sql : String) : Act (Exchange W) Value := do
  (o.call .openCursor).rescue fun f => throw (queryFailure f)
  Act.always ((runCursor o sql).rescue fun f => throw (queryFailure f)) (o.call .closeCursor)

def send (sql : String) : Act (Sqlite × Exchange W) Value := do
  connect o
  Act.second (run o sql)

def close : Act (Sqlite × Exchange W) Unit := do
  let (t, _) ← get
  if t.connected then
    Act.second (o.call .closeSqlite)
    modify fun (t, x) => ({ t with connected := false }, x)

end Sqlite
end PagedQuery
