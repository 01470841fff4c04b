import PagedQuery.Transport.Table

/-!
Statements run by the DuckDB driver, which need not be installed.
-/
namespace PagedQuery

structure Duckdb where
  database : String
  readOnly : Bool
  connected : Bool
deriving DecidableEq, Repr

namespace Duckdb

def mode : String := "duckdb"

structure Options where
  database : String := ":memory:"
  readOnly : Bool := false
deriving Repr

def make (installed : Bool) (o : Options) : Except Failure Duckdb :=
  if installed then .ok ⟨o.database, o.readOnly, false⟩
  else .error (.ofTransport .connection mode
    "DuckDB not installed. Run: pip install sqleary[duckdb]" none)

def connectFailure : Failure → Failure
  | .thrown e =>
    if e.isDuckdbFailure then
      .ofTransport .connection mode ("Failed to connect to DuckDB: " ++ e.text) (some (.thrown e))
    else .thrown e
  | f => f

def queryFailure : Failure → Failure
  | .thrown e =>
    if e.isDuckdbFailure then
      .ofTransport .query mode ("DuckDB query failed: " ++ e.text) (some (.thrown e))
    else .thrown e
  | f => f

variable {W : Type} (o : Outside W)

def connect : Act (Duckdb × Exchange W) Unit := do
  let (t, _) ← get
  if !t.connected then
    let opening := o.call (.openDuckdb t.database t.readOnly)
    (Act.second opening).rescue fun f => throw (connectFailure f)
    modify fun (t, x) => ({ t with connected := true }, x)

/-- Runs a statement and fetches its rows, also when it has no columns. -/
def run (sql : String) : Act (Exchange W) Value := do
  let columns ← o.call (.runDuckdb sql)
  let data ← o.call .fetchDuckdb
  pure (Table.rowObjects (Table.columnNames columns) data)

def send (sql : String) : Act (Duckdb × Exchange W) Value := do
  connect o
  (Act.second (run o sql)).rescue fun f => throw (queryFailure f)

def close : Act (Duckdb × Exchange W) Unit := do
  let (t, _) ← get
  if t.connected then
    Act.second (o.call .closeDuckdb)
    modify fun (t, x) => ({ t with connected := false }, x)

end Duckdb
end PagedQuery
