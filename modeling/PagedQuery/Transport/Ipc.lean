import PagedQuery.Outside

/-!
Statements sent to a process that owns the database. Every statement has a connection of its
own, which is closed as soon as the reply is there or something fails.
-/
namespace PagedQuery

structure Ipc where
  address : Address
  authkey : Option String
  channel : String
deriving DecidableEq, Repr

namespace Ipc

def mode : String := "ipc"

structure Options where
  address : Address := ⟨"localhost", 6000⟩
  authkey : Option String := none
  channel : String := "sql"
deriving Repr

def make (o : Options) : Ipc := ⟨o.address, o.authkey.filter fun key => !key.isEmpty, o.channel⟩

def addressText (t : Ipc) : Except Fault String := do
  let socket ← Number.wholeText t.address.socket
  pure ("(" ++ Text.quoted t.address.host ++ ", " ++ socket ++ ")")

def askFailure (t : Ipc) : Failure → Failure
  | .thrown e =>
    if e.isChannelFailure then
      .naming t.addressText fun address => .ofTransport .connection mode
        ("IPC request to " ++ address ++ " failed: " ++ e.text) (some (.thrown e))
    else .thrown e
  | f => f

variable [Runtime]

/-- The rows of a reply. An object with an error in it tells why there are none. -/
def rows : Value → Except Failure Value
  | .list items => .ok (.list items)
  | .object fields =>
    match Entries.find? "error" fields with
    | some v => .error (.naming v.text fun text => .ofTransport .query mode text none)
    | none => .error (unexpected (.object fields))
  | v => .error (unexpected v)
where
  unexpected (v : Value) : Failure :=
    .ofTransport .query mode ("Expected a list of rows over IPC, got " ++ v.typeName) none

variable {W : Type} (o : Outside W)

/-- Opens a connection, posts the statement, waits for the reply and closes the connection. -/
def ask (t : Ipc) (sql : String) : Act (Exchange W) Value := do
  o.call (.dial t.address t.authkey)
  Act.always (do o.call (.post t.channel sql); o.call .receive) (o.call .hangUp)

def send (sql : String) : Act (Ipc × Exchange W) Value := do
  let (t, _) ← get
  let reply ← (Act.second (ask o t sql)).rescue fun f => throw (t.askFailure f)
  Act.ofExcept (rows reply)

end Ipc
end PagedQuery
