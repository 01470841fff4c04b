import PagedQuery.Sql.Statement
import PagedQuery.Engine.Rows
import PagedQuery.Engine.Totals

/-!
The engine: a query with the statement of its current page, the rows of that page, and the
totals of the last count. An operation that fails leaves the page as it was.
-/
namespace PagedQuery

structure Engine where
  query : Query
  dialect : Dialect
  /-- Whether the transport was made for this engine and is closed with it. -/
  ownsTransport : Bool
  sql : String
  rows : List Row
  page : Option Number
  pages : Option Int
  total : Option Int
deriving Repr

/-- What an engine needs of a transport. -/
structure Link (σ : Type) where
  send : String → Act σ Value
  close : Act σ Unit

namespace Engine

variable [Runtime]

/-- An engine that has not sent anything yet. -/
def make (query : Query) (dialect : Dialect) (ownsTransport : Bool) : Except Failure Engine :=
  match query.pageSql dialect with
  | .ok sql => .ok ⟨query, dialect, ownsTransport, sql, [], none, none, none⟩
  | .error f => .error (.fault f)

variable {σ : Type} (link : Link σ)

def update (f : Engine → Engine) : Act (Engine × σ) Unit := modify fun s => (f s.1, s.2)

def ofFault {α : Type} (r : Except Fault α) : Act (Engine × σ) α :=
  match r with
  | .ok a => pure a
  | .error f => throw (.fault f)

/-- Sends a page statement and returns the rows of the page. -/
def fetch (sql : String) : Act (Engine × σ) (List Row) := do
  let reply ← Act.second (link.send sql)
  let (e, _) ← get
  Act.ofExcept (Row.ofReply e.query.isJoined reply)

def execute : Act (Engine × σ) Unit := do
  let (e, _) ← get
  let rows ← fetch link e.sql
  update fun e => { e with rows := rows }

def buildSql : Act (Engine × σ) String := do
  let (e, _) ← get
  let sql ← ofFault (e.query.pageSql e.dialect)
  update fun e => { e with sql := sql }
  pure sql

/-- Counts all rows and pages. When all rows are on one page they are counted without asking. The
log entry at the end can fail where the totals cannot: they stay then. -/
def calculateTotals : Act (Engine × σ) Unit := do
  let (e, _) ← get
  if e.query.isUnbounded then
    update fun e => { e with pages := some 1, total := some e.rows.length }
  else
    let sql ← ofFault e.query.countSql
    let reply ← Act.second (link.send sql)
    let total ← ofFault (Totals.countOf reply)
    update fun e => { e with total := some total }
    let pages ← ofFault (Totals.pageCount total e.query.pageSize)
    update fun e => { e with pages := some pages }
    discard (ofFault (Totals.logLine e.query.qualifiedTable total pages))

def isCurrent (e : Engine) (page : Number) : Bool :=
  match e.page with
  | some current => page.same current
  | none => false

/-- The page that is shown for a page asked for: not after the last, and not before the first. -/
def target (e : Engine) (page : Number) : Number :=
  let bounded := match e.pages with
    | some pages => if page.above pages then .whole pages else page
    | none => page
  if bounded.below 1 then .whole 1 else bounded

def turnTo (page : Number) : Act (Engine × σ) Unit := do
  let (e, _) ← get
  let query := { e.query with page := page }
  let sql ← ofFault (query.pageSql e.dialect)
  let rows ← fetch link sql
  update fun e => { e with query := query, sql := sql, rows := rows, page := some page }

/-- Goes to a page, and does nothing when that is the current one. -/
def goToPage (page : Number) : Act (Engine × σ) Unit := do
  let (e, _) ← get
  if e.isCurrent page then pure ()
  else
    let page := e.target page
    if e.isCurrent page then pure () else turnTo link page

/-- Goes to the page that a value stands for. What is no number is no page, except that null is
the page of an engine that has none. -/
def goToValue (v : Value) : Act (Engine × σ) Unit := do
  let (e, _) ← get
  match v.number?, v, e.page with
  | some page, _, _ => goToPage link page
  | none, .null, none => pure ()
  | none, _, _ => throw (.fault .wrongType)

/-- Closes the transport, if it is the engine's own. -/
def close : Act (Engine × σ) Unit := do
  let (e, _) ← get
  if e.ownsTransport then Act.second link.close

/-- Fetches the first rows and counts; on failure a transport of the engine's own is closed. -/
def start : Act (Engine × σ) Unit := do
  (do execute link; calculateTotals link).rescue fun f => do
    close link
    throw f
  update fun e => { e with page := some e.query.page }

def optionText {α : Type} (text : α → Except Fault String) : Option α → Except Fault String
  | some a => text a
  | none => .ok "None"

def summary (e : Engine) : Except Fault String := do
  let page ← optionText Number.text e.page
  let pages ← optionText Number.wholeText e.pages
  let total ← optionText Number.wholeText e.total
  pure ("QueryEngine(table=" ++ Text.quoted e.query.qualifiedTable ++ ", page=" ++ page
    ++ ", pages=" ++ pages ++ ", total_results=" ++ total ++ ")")

end Engine
end PagedQuery
