import PagedQuery.Engine.Create
import PagedQuery.Query.Normalize
import PagedQuery.Script

/-!
Sessions: a sequence of commands over one current transport and one current engine, in a scripted
world. A command that fails is answered with its failure, and the session goes on.
-/
namespace PagedQuery

inductive Blueprint
  | custom (typeName : String) (mode : String)
  | function
  | http (o : Http.Options)
  | ipc (o : Ipc.Options)
  | sqlite (o : Sqlite.Options)
  | duckdb (o : Duckdb.Options)

def Blueprint.make (duckdbInstalled : Bool) : Blueprint → Except Failure Transport
  | custom typeName mode => .ok (.custom typeName mode)
  | function => .ok .function
  | http o => (Http.make o).map .http
  | ipc o => .ok (.ipc (Ipc.make o))
  | sqlite o => .ok (.sqlite (Sqlite.make o))
  | duckdb o => (Duckdb.make duckdbInstalled o).map .duckdb

/-- A query as a caller writes it, or one described in full form beforehand. -/
inductive QuerySource
  | written (v : Value)
  | described (v : Value)

/-- A query that is still to be normalized, or a description that was read. -/
inductive QueryInput
  | written (v : Value)
  | read (q : Query)

def QuerySource.input : QuerySource → Except Failure QueryInput
  | written v => .ok (.written v)
  | described v =>
    match Query.read [] v with
    | .valid q => .ok (.read q)
    | .invalid found => .error (.invalid found)

def QueryInput.normalize [Runtime] : QueryInput → Except Failure Query
  | written v => Query.normalize v
  | read q => .ok q

inductive Command
  | makeTransport (b : Blueprint)
  | makeTransportFor (mode : Option String) (settings : Option Fields)
  | makeFunctionFromSettings
  | register (mode typeName : String) (fromSettings : Bool)
  | listModes
  | setVariables (changes : Settings.Variables)
  | readSettings
  | addReplies (replies : List Reply)
  | send (sql : String)
  | connect
  | closeTransport
  | sendOnce (sql : String)
  | create (source : QuerySource) (settings : Option Fields) (dialect : Option String)
      (inject : Bool)
  | prepare (source : QuerySource) (settings : Option Fields) (inject : Bool)
  | goTo (page : Value)
  | execute
  | calculateTotals
  | buildSql
  | setQuery (v : Value)
  | closeEngine
  | useEngine
  | summary

inductive Outcome
  | done
  | value (v : Value)
  | transport (t : Transport)
  | modes (names : List String)
  | settings (s : Settings)
  | same
  | text (s : String)
  | failed (f : Failure)
  | noTransport
  | noEngine

/-- The transport of the current engine: the session's current one, one of its own, or none. -/
inductive Attachment
  | shared
  | own (t : Option Transport)

structure Session where
  duckdbInstalled : Bool
  environment : Settings.Variables
  /-- The settings that were read from the environment, once they were needed. -/
  cached : Option Settings
  registry : Registry
  transport : Option Transport
  engine : Option Engine
  attachment : Attachment
  exchange : Exchange Script

namespace Session

variable [Runtime]

def start (duckdbInstalled : Bool) (environment : Settings.Variables) (replies : List Reply) :
    Session where
  duckdbInstalled := duckdbInstalled
  environment := environment
  cached := none
  registry := Registry.builtin
  transport := none
  engine := none
  attachment := .own none
  exchange := ⟨Script.ofReplies replies, []⟩

abbrev Run := Act Session

/-- Forgets the current transport; an engine that uses it goes on with it. -/
def dropTransport : Run Unit := modify fun s =>
  let attachment := match s.attachment with
    | .shared => .own s.transport
    | own => own
  { s with transport := none, attachment := attachment }

def dropEngine : Run Unit := modify fun s => { s with engine := none, attachment := .own none }

def setTransport (t : Transport) : Run Outcome := do
  modify fun s => { s with transport := some t }
  pure (.transport t)

/-- The settings of the environment, read at the first need. -/
def currentSettings : Run Settings := do
  let s ← get
  match s.cached with
  | some settings => pure settings
  | none =>
    let settings ← Act.ofExcept (Settings.load [] s.environment "")
    modify fun s => { s with cached := some settings }
    pure settings

def givenSettings (fields : Fields) : Run Settings := do
  Act.ofExcept (Settings.load fields (← get).environment "")

def onTransport {α : Type} (a : Act (Transport × Exchange Script) α) (f : α → Outcome) :
    Run Outcome := fun s =>
  match s.transport with
  | none => .ok .noTransport s
  | some t =>
    match a (t, s.exchange) with
    | .ok x (t, e) => .ok (f x) { s with transport := some t, exchange := e }
    | .error e (t, x) => .error e { s with transport := some t, exchange := x }

def engineTransport (s : Session) : Option Transport :=
  match s.attachment with
  | .shared => s.transport
  | .own t => t

def setEngineTransport (t : Option Transport) (s : Session) : Session :=
  match s.attachment with
  | .shared => { s with transport := t }
  | .own _ => { s with attachment := .own t }

def onEngine {α : Type} (a : Act (Engine × (Option Transport × Exchange Script)) α)
    (f : α → Outcome) : Run Outcome := fun s =>
  match s.engine with
  | none => .ok .noEngine s
  | some e =>
    match a (e, (s.engineTransport, s.exchange)) with
    | .ok x (e, (t, w)) =>
      .ok (f x) (setEngineTransport t { s with engine := some e, exchange := w })
    | .error g (e, (t, w)) =>
      .error g (setEngineTransport t { s with engine := some e, exchange := w })

def link : Link (Option Transport × Exchange Script) := Engine.linkTo scripted

/-- Creates an engine on the current transport or on one of its own. It is kept only if its page
could be fetched and counted. -/
def createWith (settings : Settings) (dialect : Option Dialect) (inject : Bool) (query : Query) :
    Run Outcome := fun s =>
  let shared := inject && s.transport.isSome
  let given := if shared then s.transport else none
  let keep (t : Option Transport) (x : Exchange Script) : Session :=
    { s with transport := if shared then t else s.transport, exchange := x }
  match Engine.create scripted s.registry s.duckdbInstalled settings dialect query
    (given, s.exchange) with
  | .ok engine (t, x) =>
    .ok .done { keep t x with
      engine := some engine
      attachment := if shared then .shared else .own t }
  | .error f (t, x) => .error f (keep t x)

def create (source : QuerySource) (settings : Option Fields) (dialect : Option String)
    (inject : Bool) : Run Outcome := do
  dropEngine
  let given ← settings.mapM givenSettings
  let input ← Act.ofExcept source.input
  let query ← Act.ofExcept input.normalize
  let settings ← match given with
    | some settings => pure settings
    | none => currentSettings
  createWith settings (dialect.map Dialect.ofName) inject query

/-- Sets up an engine on the current transport or on none, without sending anything. Settings that
are given along are read and not used. -/
def prepare (source : QuerySource) (settings : Option Fields) (inject : Bool) : Run Outcome := do
  dropEngine
  discard (settings.mapM givenSettings)
  let input ← Act.ofExcept source.input
  let query ← Act.ofExcept input.normalize
  let engine ← Act.ofExcept (Engine.make query Dialect.default false)
  modify fun s => { s with
    engine := some engine
    attachment := if inject && s.transport.isSome then .shared else .own none }
  pure .done

def step : Command → Run Outcome
  | .makeTransport b => do
    dropTransport
    let t ← Act.ofExcept (b.make (← get).duckdbInstalled)
    setTransport t
  | .makeTransportFor mode fields => do
    dropTransport
    let settings ← match fields with
      | some fields => givenSettings fields
      | none => currentSettings
    let s ← get
    let t ← Act.ofExcept (s.registry.transport s.duckdbInstalled mode settings)
    setTransport t
  | .makeFunctionFromSettings => do
    discard (givenSettings [])
    throw (.unsupported "FunctionTransport cannot be built from settings")
  | .register mode typeName fromSettings => do
    let registry ← Act.ofExcept ((← get).registry.register mode typeName fromSettings)
    modify fun s => { s with registry := registry }
    pure .done
  | .listModes => do pure (.modes (← get).registry.modes)
  | .setVariables changes => do
    modify fun s => { s with
      environment := changes.foldl (fun env p => Entries.insert p.1 p.2 env) s.environment }
    pure .done
  | .readSettings => do pure (.settings (← currentSettings))
  | .addReplies replies => do
    modify fun s =>
      let script := s.exchange.world
      { s with exchange := ⟨{ script with queue := script.queue ++ replies }, s.exchange.log⟩ }
    pure .done
  | .send sql => onTransport (Transport.send scripted sql) .value
  | .connect => onTransport (Transport.connect scripted) fun _ => .done
  | .closeTransport => onTransport (Transport.close scripted) fun _ => .done
  | .sendOnce sql => onTransport (Transport.sendOnce scripted sql) .value
  | .create source settings dialect inject => create source settings dialect inject
  | .prepare source settings inject => prepare source settings inject
  | .goTo page => onEngine (Engine.goToValue link page) fun _ => .same
  | .execute => onEngine (Engine.execute link) fun _ => .same
  | .calculateTotals => onEngine (Engine.calculateTotals link) fun _ => .same
  | .buildSql => onEngine Engine.buildSql .text
  | .setQuery v => do
    if (← get).engine.isNone then pure .noEngine
    else
      let query ← Act.ofExcept (Query.normalize v)
      onEngine (Engine.update fun e => { e with query := query }) fun _ => .done
  | .closeEngine => onEngine (Engine.close link) fun _ => .done
  | .useEngine => onEngine (Engine.close link) fun _ => .same
  | .summary => do
    match (← get).engine with
    | some e => pure (.text (← Act.ofExcept (e.summary.mapError Failure.fault)))
    | none => pure .noEngine

/-- Runs a command: its outcome, the calls that were made for it, and the session after it. -/
def run (c : Command) (s : Session) : Outcome × List Event × Session :=
  match step c { s with exchange := ⟨s.exchange.world, []⟩ } with
  | .ok outcome s => (outcome, s.exchange.log, s)
  | .error f s => (.failed f, s.exchange.log, s)

end Session
end PagedQuery
