import PagedQuery.Query.Field

/-!
Settings: how transports are configured when nothing else is said.
-/
namespace PagedQuery

structure Settings where
  mode : String
  httpUrl : String
  httpEndpoint : String
  httpMethod : String
  apiKey : Option String
  apiKeyHeader : String
  timeout : Binary64
  verifySsl : Bool
  ipcHost : String
  ipcPort : Int
  ipcAuthkey : Option String
  ipcChannel : String
  sqliteDatabase : String
  duckdbDatabase : String
  sqlDialect : String
deriving DecidableEq, Repr, Inhabited

/-- Half a minute. -/
def Settings.defaultTimeout : Binary64 := Binary64.ofInt 30

def Settings.read (fields : Fields) : Checked Settings :=
  let text (name default : String) := Field.orElse [] fields [name] default Field.string
  let key (name : String) := Field.orElse [] fields [name] none Field.optionalString
  Settings.mk
    <$> text "mode" "http"
    <*> text "http_url" "http://localhost:8080"
    <*> text "http_endpoint" "/query"
    <*> text "http_method" "POST"
    <*> key "api_key"
    <*> text "api_key_header" "X-API-Key"
    <*> Field.orElse [] fields ["timeout"] defaultTimeout Field.positive
    <*> Field.orElse [] fields ["verify_ssl"] true Field.bool
    <*> text "ipc_host" "localhost"
    <*> Field.orElse [] fields ["ipc_port"] 6000 Field.whole
    <*> key "ipc_authkey"
    <*> text "ipc_channel" "sql"
    <*> text "sqlite_database" ":memory:"
    <*> text "duckdb_database" ":memory:"
    <*> text "sql_dialect" "sqlite"

end PagedQuery
