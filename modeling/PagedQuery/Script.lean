import PagedQuery.Outside

/-!
A scripted world: calls are answered from a queue of replies. A reply that raises does so as soon
as a call comes to its place, or when a call takes it; calls for which there is no reply left get
an empty one.
-/
namespace PagedQuery

inductive Place
  | connect
  | send
  | receive
  | cursor
  | execute
  | fetch
deriving DecidableEq, Repr

structure Reply where
  failure : Option Failure := none
  place : Option Place := none
  rows : Value := .list []
  reply : Value := .list []
  columns : Columns := none
  response : Response := ⟨200, [], ['[', ']'].map fun c => UInt8.ofNat c.toNat⟩
  statements : List String := []
deriving Repr

/-- Replies that are still to come, and what the last statement left to be fetched. -/
structure Script where
  queue : List Reply
  pending : Except Failure Value

namespace Script

def ofReplies (queue : List Reply) : Script := ⟨queue, .ok (.list [])⟩

/-- The place of a call, and the usual place for its kind of transport to fail. -/
def places : Call → Option (Place × Place)
  | .deliver _ | .request .. => some (.send, .send)
  | .dial .. => some (.connect, .connect)
  | .post .. => some (.send, .connect)
  | .receive => some (.receive, .connect)
  | .openSqlite .. | .openDuckdb .. => some (.connect, .execute)
  | .openCursor => some (.cursor, .execute)
  | .runCursor _ | .runDuckdb _ => some (.execute, .execute)
  | _ => none

/-- What the head of the queue raises at a call, when this is its place. -/
def raisedAt? (c : Call) (s : Script) : Option Failure :=
  match places c, s.queue with
  | some (here, usual), reply :: _ => if reply.place.getD usual = here then reply.failure else none
  | _, _ => none

/-- Takes the next reply, which raises here if it raises at all. -/
def take (s : Script) : Except Failure Reply × Script :=
  match s.queue with
  | [] => (.ok {}, s)
  | reply :: rest =>
    let s := { s with queue := rest }
    match reply.failure with
    | some f => (.error f, s)
    | none => (.ok reply, s)

/-- Takes the reply to a statement and keeps its rows; one that raises when rows are fetched is
taken like any other. -/
def takeResult (s : Script) : Except Failure Columns × Script :=
  match s.queue with
  | reply :: rest =>
    match reply.failure with
    | some f =>
      if reply.place = some .fetch then (.ok reply.columns, ⟨rest, .error f⟩)
      else (.error f, { s with queue := rest })
    | none => (.ok reply.columns, ⟨rest, .ok reply.rows⟩)
  | [] => (.ok none, { s with pending := .ok (.list []) })

/-- The rows that are fetched, each as the list of its members. -/
def fetched (s : Script) : Except Failure (List (List Value)) := do
  let wrong : Failure := .fault .wrongType
  match (← s.pending).members? with
  | none => .error wrong
  | some rows => rows.mapM fun row =>
      match row.members? with
      | some values => .ok values
      | none => .error wrong

def mapReply {α : Type} (f : Reply → α) (r : Except Failure Reply × Script) :
    Except Failure α × Script := (r.1.map f, r.2)

def respond (s : Script) : (c : Call) → Except Failure c.Answer × Script
  | .deliver _ => mapReply Reply.rows s.take
  | .request .. => mapReply Reply.response s.take
  | .receive => mapReply Reply.reply s.take
  | .runCursor _ => s.takeResult
  | .runDuckdb _ => s.takeResult
  | .fetchCursor => (s.fetched, s)
  | .fetchDuckdb => (s.fetched, s)
  | .parse .. => mapReply (fun _ => ()) s.take
  | .transpile .. => mapReply Reply.statements s.take
  | .release | .openClient .. | .closeClient | .dial .. | .post .. | .hangUp | .openSqlite ..
  | .openCursor | .closeCursor | .closeSqlite | .openDuckdb .. | .closeDuckdb => (.ok (), s)

def answer (c : Call) (s : Script) : Except Failure c.Answer × Script :=
  match s.raisedAt? c with
  | some f => (.error f, { s with queue := s.queue.drop 1 })
  | none => s.respond c

end Script

/-- The world that a script describes. -/
def scripted : Outside Script := ⟨Script.answer⟩

end PagedQuery
