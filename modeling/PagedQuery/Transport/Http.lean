import PagedQuery.Text.Case
import PagedQuery.Transport.Response

/-!
Statements sent to a server over HTTP. The answer's body is JSON: a list of rows, or an object
that holds one.
-/
namespace PagedQuery

inductive Client
  | none
  | opened
  | given
deriving DecidableEq, Repr

structure Http where
  url : String
  endpoint : String
  method : Method
  apiKey : Option String
  apiKeyHeader : String
  /-- Seconds, in the form in which they were given. -/
  timeout : Value
  verify : Bool
  client : Client
deriving Repr

namespace Http

variable [Runtime]

def mode : String := "http"

def methodOf? (name : String) : Option Method :=
  match Text.upper name with
  | "GET" => some .get
  | "POST" => some .post
  | _ => none

structure Options where
  url : String := "http://localhost:8080"
  endpoint : String := "/query"
  method : String := "POST"
  apiKey : Option String := none
  apiKeyHeader : String := "X-API-Key"
  timeout : Value := .int 30
  verify : Bool := true
  given : Bool := false
deriving Repr

def make (o : Options) : Except Failure Http :=
  match methodOf? o.method with
  | none => .error (.queryConfig ("Unsupported HTTP method: " ++ o.method))
  | some m => .ok {
      url := String.ofList (Text.dropRightWhile (· = '/') o.url.toList)
      endpoint := o.endpoint
      method := m
      apiKey := o.apiKey
      apiKeyHeader := o.apiKeyHeader
      timeout := o.timeout
      verify := o.verify
      client := if o.given then .given else .none }

def headers (h : Http) : List (String × String) :=
  let accept := [("Accept", "application/json")]
  match h.apiKey with
  | some key => if key.isEmpty then accept else Entries.insert h.apiKeyHeader key accept
  | none => accept

def address (h : Http) : String := h.url ++ h.endpoint

def requestFailure (h : Http) : Failure → Failure
  | .thrown t =>
    if t.isConnectFailure then
      .ofTransport .connection mode ("Failed to connect to " ++ h.address ++ ": " ++ t.text)
        (some (.thrown t))
    else if t.isTimeout then
      .naming h.timeout.text fun seconds => .ofTransport .timeout mode
        ("Request timed out after " ++ seconds ++ "s: " ++ t.text) (some (.thrown t))
    else if t.isHttpFailure then
      .ofTransport .transport mode ("Request failed: " ++ t.text) (some (.thrown t))
    else .thrown t
  | f => f

def readBody (r : Response) : Except Failure (Except Json.Obstacle Value) :=
  match Json.readBytes Runtime.readDepth r.body with
  | .ok v => .ok (.ok v)
  | .error o => if o.isDepth then .error (.fault .tooDeep) else .ok (.error o)

def plainMessage (r : Response) : Except Failure Value := do
  let text ← r.text
  if text.isEmpty then
    let status ← (Number.wholeText r.status).mapError Failure.fault
    pure (.string ("HTTP " ++ status))
  else pure (.string text)

/-- What a server says about its refusal: the value of `detail` in an object, else the whole of a
JSON body as text, else the body as it is. The text of the whole is made in any case, and where a
number in it cannot be written, the body counts as none. -/
def refusalMessage (r : Response) : Except Failure Value := do
  match ← readBody r with
  | .error _ => plainMessage r
  | .ok v =>
    match v.text with
    | .error .wrongValue => plainMessage r
    | .error f => throw (.fault f)
    | .ok whole =>
      match v with
      | .object fields => pure ((Entries.find? "detail" fields).getD (.string whole))
      | _ => pure (.string whole)

/-- The waiting time that a server asks for, when its header holds digits only. Digits that form
no numeral cannot be read. -/
def retryAfter (r : Response) : Except Failure Value :=
  match r.header? "Retry-After" with
  | none => .ok .null
  | some s =>
    let cs := s.toList
    if cs.isEmpty || !cs.all Text.isDigit then .ok .null
    else match Text.wholeNumeral? cs with
      | some n => .ok (.int n)
      | none => .error (.fault .wrongValue)

/-- What is logged of a refusal, the address apart. -/
def logLine (r : Response) (message : Value) : Except Fault String := do
  let status ← Number.wholeText r.status
  let text ← message.text
  pure ("HTTP transport got " ++ status ++ ": " ++ text)

def refusal (r : Response) : Except Failure Report := do
  let message ← refusalMessage r
  discard ((logLine r message).mapError Failure.fault)
  let report (kind : ErrorKind) : Report := {
    kind := kind
    message := message
    transport := .string mode
    status := .int r.status }
  if r.status = 401 ∨ r.status = 403 then pure (report .authentication)
  else if r.status = 400 then pure (report .query)
  else if r.status = Report.tooManyRequests then
    pure { report .rateLimit with retryAfter := ← retryAfter r }
  else pure (report .transport)

def payload : Value → Value
  | .object fields =>
    match Entries.find? "response" fields, Entries.find? "rows" fields with
    | some v, _ => v
    | none, some v => v
    | none, none => .object fields
  | v => v

def isSuccess (r : Response) : Bool := 200 ≤ r.status && r.status ≤ 299

def rows (h : Http) (r : Response) : Except Failure Value := do
  if isSuccess r then
    match ← readBody r with
    | .error o => throw (.reported {
        kind := .query
        message := .string ("Response from " ++ h.endpoint ++ " is not JSON: " ++ o.message)
        transport := .string mode
        status := .int r.status
        cause := some (.notJson o) })
    | .ok v =>
      match payload v with
      | .list items => pure (.list items)
      | w => throw (.ofTransport .query mode
          ("Expected a list of rows from " ++ h.endpoint ++ ", got " ++ w.typeName) none)
  else throw (.reported (← refusal r))

variable {W : Type} (o : Outside W)

def send (sql : String) : Act (Http × Exchange W) Value := do
  let (h, _) ← get
  if h.client = .none then
    Act.second (o.call (.openClient h.timeout h.verify))
    modify fun (h, x) => ({ h with client := .opened }, x)
  let request := o.call (.request h.method h.address sql h.headers)
  let received ← (Act.second request).rescue fun f => throw (h.requestFailure f)
  let response ← Act.ofExcept (received.decompressed.mapError h.requestFailure)
  Act.ofExcept (h.rows response)

def close : Act (Http × Exchange W) Unit := do
  let (h, _) ← get
  if h.client = .opened then
    Act.second (o.call .closeClient)
    modify fun (h, x) => ({ h with client := .none }, x)

end Http
end PagedQuery
