import PagedQuery.Json.Bytes
import PagedQuery.Query.Violation
import PagedQuery.Value.Text

/-!
Failures: everything that can go wrong, by its cause.
-/
namespace PagedQuery

/-- What an exception from outside belongs to. -/
inductive Origin
  | http
  | sqlite
  | duckdb
  | sqlParser
  | system
  /-- The library for connections between processes, besides what the system raises. -/
  | process
deriving DecidableEq, Repr

/-- An exception that was raised outside this library. -/
structure Thrown where
  origin : Origin
  name : String
  text : String
deriving DecidableEq, Repr

namespace Thrown

/-- An exception made from a message, which is its text; a missing key is shown quoted. -/
def ofMessage (origin : Origin) (name message : String) : Thrown :=
  ⟨origin, name, if origin = .system ∧ name = "KeyError" then Text.quoted message else message⟩

def timeoutNames : List String :=
  ["TimeoutException", "ConnectTimeout", "ReadTimeout", "WriteTimeout", "PoolTimeout"]

/-- Exceptions of the HTTP client that do not speak of a request under way. -/
def httpMisuseNames : List String :=
  ["InvalidURL", "CookieConflict", "StreamError", "StreamConsumed", "StreamClosed",
   "ResponseNotRead", "RequestNotRead"]

def systemNames : List String :=
  ["OSError", "BlockingIOError", "ChildProcessError", "ConnectionError", "BrokenPipeError",
   "ConnectionAbortedError", "ConnectionRefusedError", "ConnectionResetError", "FileExistsError",
   "FileNotFoundError", "InterruptedError", "IsADirectoryError", "NotADirectoryError",
   "PermissionError", "ProcessLookupError", "TimeoutError", "gaierror", "herror"]

def isConnectFailure (t : Thrown) : Bool := t.origin == .http && t.name == "ConnectError"

def isTimeout (t : Thrown) : Bool := t.origin == .http && timeoutNames.contains t.name

def isHttpFailure (t : Thrown) : Bool := t.origin == .http && !httpMisuseNames.contains t.name

/-- The operating system's exceptions, and the end of a stream. -/
def isChannelFailure (t : Thrown) : Bool :=
  t.origin == .system && (systemNames.contains t.name || t.name == "EOFError")

def isSqliteFailure (t : Thrown) : Bool := t.origin == .sqlite && t.name != "Warning"

def isDuckdbFailure (t : Thrown) : Bool := t.origin == .duckdb

def isParseFailure (t : Thrown) : Bool := t.origin == .sqlParser && t.name == "ParseError"

end Thrown

inductive ErrorKind
  | general
  | queryConfig
  | sqlBuilder
  | transport
  | connection
  | timeout
  | authentication
  | rateLimit
  | query
deriving DecidableEq, Repr

/-- Whether errors of a kind say which transport they come from. -/
def ErrorKind.isTransport : ErrorKind → Bool
  | general | queryConfig | sqlBuilder => false
  | _ => true

/-- The kinds that an error of a kind also counts as, the narrowest first. -/
def ErrorKind.ancestry : ErrorKind → List ErrorKind
  | general => [general]
  | queryConfig => [queryConfig, general]
  | sqlBuilder => [sqlBuilder, general]
  | transport => [transport, general]
  | kind => [kind, transport, general]

/-- What an error was caused by. -/
inductive Cause
  | thrown (t : Thrown)
  | notJson (o : Json.Obstacle)
  | value (v : Value)
deriving Repr

/-- An error of this library. The message is a text, unless a server sent something else. -/
structure Report where
  kind : ErrorKind
  message : Value
  details : Value := .object []
  transport : Value := .string ""
  status : Value := .null
  cause : Option Cause := none
  retryAfter : Value := .null
  /-- What is wrong with a description, when that is what is reported. -/
  violations : Option (List Violation) := none
deriving Repr

/-- The error as text; without a status it has one only if its message is a text. -/
def Report.text? [Runtime] (r : Report) : Option String :=
  if r.kind.isTransport && !r.status.isEmpty then
    match r.status.text, r.message.text with
    | .ok status, .ok message => some ("[" ++ status ++ "] " ++ message)
    | _, _ => none
  else match r.message with
    | .string s => some s
    | _ => none

inductive Failure
  | reported (r : Report)
  | invalid (found : List Violation)
  | unsupported (message : String)
  | fault (f : Fault)
  | thrown (t : Thrown)
deriving Repr

namespace Failure

def text [Runtime] : Failure → String
  | reported r => r.text?.getD ""
  | thrown t => t.text
  | unsupported message => message
  | _ => ""

def queryConfig (message : String) : Failure :=
  reported { kind := .queryConfig, message := .string message }

/-- A query that cannot be used because of what is wrong with a description in it. -/
def refused (message : String) (found : List Violation) : Failure :=
  reported { kind := .queryConfig, message := .string message, violations := some found }

/-- A failure that speaks of something by its text; without one, that is what fails. -/
def naming (text : Except Fault String) (failure : String → Failure) : Failure :=
  match text with
  | .ok s => failure s
  | .error f => fault f

def ofTransport (kind : ErrorKind) (transport : String) (message : String)
    (cause : Option Cause) : Failure :=
  reported {
    kind := kind
    message := .string message
    transport := .string transport
    cause := cause }

end Failure

/-- The parts that an error of a kind is made from, under their names. -/
def Report.partNames : ErrorKind → List String
  | .general | .queryConfig | .sqlBuilder => ["message", "details"]
  | .rateLimit => ["message", "transport", "retry_after"]
  | _ => ["message", "transport", "status_code", "original_error", "details"]

def Report.tooManyRequests : Int := 429

/-- An error from its named parts, of which the message is needed and no others are known. -/
def Report.ofParts (kind : ErrorKind) (parts : Fields) : Except Fault Report :=
  let part (name : String) (default : Value) := (Entries.find? name parts).getD default
  match Entries.find? "message" parts with
  | none => .error .wrongType
  | some message =>
    if parts.all fun p => (partNames kind).contains p.1 then
      let details := part "details" .null
      let status := if kind = .rateLimit then .int tooManyRequests else part "status_code" .null
      .ok {
        kind := kind
        message := message
        details := if details.isEmpty then .object [] else details
        transport := part "transport" (.string "")
        status := status
        cause := match part "original_error" .null with
          | .null => none
          | v => some (.value v)
        retryAfter := part "retry_after" .null }
    else .error .wrongType

end PagedQuery
