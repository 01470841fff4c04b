import PagedQuery.Transport.Basic
import PagedQuery.Settings.Sources

/-!
The registry: which transport a mode stands for, and how it is made from settings.
-/
namespace PagedQuery

inductive Maker
  | http
  | ipc
  | sqlite
  | duckdb
  | custom (typeName : String) (mode : String)
deriving DecidableEq, Repr

namespace Maker

def make (maker : Maker) (duckdbInstalled : Bool) (s : Settings) : Except Failure Transport :=
  match maker with
  | http => (Http.make {
      url := s.httpUrl
      endpoint := s.httpEndpoint
      method := s.httpMethod
      apiKey := s.apiKey
      apiKeyHeader := s.apiKeyHeader
      timeout := .real s.timeout
      verify := s.verifySsl }).map .http
  | ipc => .ok (.ipc (Ipc.make {
      address := ⟨s.ipcHost, s.ipcPort⟩
      authkey := s.ipcAuthkey
      channel := s.ipcChannel }))
  | sqlite => .ok (.sqlite (Sqlite.make {
      database := s.sqliteDatabase
      timeout := .real s.timeout }))
  | duckdb => (Duckdb.make duckdbInstalled { database := s.duckdbDatabase }).map .duckdb
  | custom typeName mode => .ok (.custom typeName mode)

end Maker

/-- Makers under their modes in small letters, in the order of their first registration. -/
abbrev Registry := List (String × Maker)

namespace Registry

def builtin : Registry :=
  [(Http.mode, .http), (Ipc.mode, .ipc), (Sqlite.mode, .sqlite), (Duckdb.mode, .duckdb)]

def modes (r : Registry) : List String := r.map Prod.fst

/-- Registers a type of the caller. One that cannot be made from settings is refused. -/
def register (mode typeName : String) (fromSettings : Bool) (r : Registry) :
    Except Failure Registry :=
  if fromSettings then .ok (Entries.insert (Text.lower mode) (.custom typeName mode) r)
  else .error (.queryConfig
    (typeName ++ " does not implement from_settings() and cannot be selected by mode"))

def modeOf (asked : Option String) (s : Settings) : String :=
  match asked with
  | some mode => Text.lower (if mode.isEmpty then s.mode else mode)
  | none => Text.lower s.mode

def transport (r : Registry) (duckdbInstalled : Bool) (asked : Option String) (s : Settings) :
    Except Failure Transport :=
  let mode := modeOf asked s
  match Entries.find? mode r with
  | some maker => maker.make duckdbInstalled s
  | none => .error (.queryConfig
      ("Unsupported mode: " ++ mode ++ ". Available: " ++ Value.commaSeparated r.modes))

end Registry
end PagedQuery
