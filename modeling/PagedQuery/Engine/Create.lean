import PagedQuery.Engine.Basic
import PagedQuery.Transport.Registry

/-!
Setting up an engine: the transport it is given or one made from settings, and the dialect its
statements are written in. Nothing is sent before all of this is there.
-/
namespace PagedQuery.Engine

variable [Runtime]

structure Prepared where
  engine : Engine
  transport : Transport
deriving Repr

def prepare (registry : Registry) (duckdbInstalled : Bool) (settings : Settings)
    (given : Option Transport) (dialect : Option Dialect) (query : Query) :
    Except Failure Prepared := do
  let transport ← match given with
    | some t => .ok t
    | none => registry.transport duckdbInstalled query.mode settings
  let dialect := dialect.getD (Dialect.ofName settings.sqlDialect)
  let engine ← Engine.make query dialect given.isNone
  pure ⟨engine, transport⟩

/-- The link of an engine to a transport; without one, every statement fails. -/
def linkTo {W : Type} (o : Outside W) : Link (Option Transport × Exchange W) where
  send sql := fun s =>
    match s.1 with
    | some t => Act.variant some t (Transport.send o sql) s
    | none => .error (.fault .missingAttribute) s
  close := fun s =>
    match s.1 with
    | some t => Act.variant some t (Transport.close o) s
    | none => .error (.fault .missingAttribute) s

/-- Creates an engine for a query and shows its page. The state holds the transport that is given,
if one is, and in the end the one that was used. -/
def create {W : Type} (o : Outside W) (registry : Registry) (duckdbInstalled : Bool)
    (settings : Settings) (dialect : Option Dialect) (query : Query) :
    Act (Option Transport × Exchange W) Engine := fun s =>
  match prepare registry duckdbInstalled settings s.1 dialect query with
  | .error f => .error f s
  | .ok prepared =>
    match start (linkTo o) (prepared.engine, (some prepared.transport, s.2)) with
    | .ok _ (engine, s) => .ok engine s
    | .error f (_, s) => .error f s

end PagedQuery.Engine
