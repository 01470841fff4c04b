import PagedQuery.Failure

/-!
The world outside: every call that leaves this library, what it is answered with, and the
record of the calls made. Programs are written against any world that answers calls; what they
do is a function of its answers.
-/
namespace PagedQuery

inductive Method
  | get
  | post
deriving DecidableEq, Repr

/-- A host, and the number of a socket on it. -/
structure Address where
  host : String
  socket : Int
deriving DecidableEq, Repr

inductive Call
  | deliver (sql : String)
  | release
  | openClient (timeout : Value) (verify : Bool)
  | request (method : Method) (url : String) (sql : String) (headers : List (String × String))
  | closeClient
  | dial (address : Address) (authkey : Option String)
  | post (channel : String) (sql : String)
  | receive
  | hangUp
  | openSqlite (database : String) (asUri : Bool) (timeout : Value)
  | openCursor
  | runCursor (sql : String)
  | fetchCursor
  | closeCursor
  | closeSqlite
  | openDuckdb (database : String) (readOnly : Bool)
  | runDuckdb (sql : String)
  | fetchDuckdb
  | closeDuckdb
  | parse (sql : String) (dialect : String)
  | transpile (sql : String) (source : String) (target : String)
deriving Repr

structure Response where
  status : Int
  headers : List (String × String)
  body : List UInt8
deriving DecidableEq, Repr

/-- The names of the columns of a result, if it has any. -/
abbrev Columns := Option (List String)

/-- What a call is answered with when it succeeds. -/
abbrev Call.Answer : Call → Type
  | deliver _ | receive => Value
  | request .. => Response
  | runCursor _ | runDuckdb _ => Columns
  | fetchCursor | fetchDuckdb => List (List Value)
  | transpile .. => List String
  | _ => Unit

/-- A world that answers every call, with an answer or a failure, and goes on from there. -/
structure Outside (W : Type) where
  answer : (c : Call) → W → Except Failure c.Answer × W

structure Event where
  call : Call
  succeeded : Bool
deriving Repr

/-- The world with the record of all calls made so far, the first at the front. -/
structure Exchange (W : Type) where
  world : W
  log : List Event

/-- A program over a state; a failure keeps the state that was reached. -/
abbrev Act (σ : Type) := EStateM Failure σ

namespace Act

variable {σ τ υ α : Type}

def ofExcept : Except Failure α → Act σ α
  | .ok a => pure a
  | .error f => throw f

/-- Goes on with `f` instead of failing. -/
def rescue (a : Act σ α) (f : Failure → Act σ α) : Act σ α := fun s =>
  match a s with
  | .ok x s => .ok x s
  | .error e s => f e s

/-- Runs `last` after a program, whether it failed or not; a failure of `last` counts first. -/
def always (a : Act σ α) (last : Act σ Unit) : Act σ α := fun s =>
  match a s with
  | .ok x s => (last >>= fun _ => pure x) s
  | .error e s => (last >>= fun _ => throw e) s

/-- A program over one part of a state. -/
def within (get : υ → τ) (set : τ → υ → υ) (a : Act τ α) : Act υ α := fun u =>
  match a (get u) with
  | .ok x t => .ok x (set t u)
  | .error e t => .error e (set t u)

/-- A program over the second part of a pair. -/
def second (a : Act σ α) : Act (τ × σ) α := a.within Prod.snd fun s u => (u.1, s)

/-- A program over a pair whose first part is kept as a variant of a larger type. -/
def variant (mk : τ → υ) (t : τ) (a : Act (τ × σ) α) : Act (υ × σ) α := fun u =>
  match a (t, u.2) with
  | .ok x (t, s) => .ok x (mk t, s)
  | .error e (t, s) => .error e (mk t, s)

end Act

def Outside.call {W : Type} (o : Outside W) (c : Call) : Act (Exchange W) c.Answer := fun x =>
  match o.answer c x.world with
  | (.ok a, w) => .ok a ⟨w, x.log ++ [⟨c, true⟩]⟩
  | (.error f, w) => .error f ⟨w, x.log ++ [⟨c, false⟩]⟩

end PagedQuery
