import PagedQuery.Settings.Basic
import PagedQuery.Settings.Dotenv
import PagedQuery.Text.Case
import PagedQuery.Failure

/-!
Where settings come from: values given by name, then the environment, then a variable file, then
the defaults. Only the value that counts is looked at.
-/
namespace PagedQuery.Settings

def variableStem : String := "sqleary_"

/-- The variables of an environment in the order in which they were first set. -/
abbrev Variables := List (String × String)

def names : List String :=
  ["mode", "http_url", "http_endpoint", "http_method", "api_key", "api_key_header", "timeout",
   "verify_ssl", "ipc_host", "ipc_port", "ipc_authkey", "ipc_channel", "sqlite_database",
   "duckdb_database", "sql_dialect"]

/-- The value of the last variable that a setting is read from. The case of letters does not
matter in the names of variables. -/
def valueOf? (bindings : List Dotenv.Binding) (setting : String) : Option String :=
  (bindings.reverse.find? fun b => Text.lower b.1 == variableStem ++ setting).bind Prod.snd

def variableFields (bindings : List Dotenv.Binding) : Fields :=
  names.filterMap fun name => (valueOf? bindings name).map fun s => (name, .string s)

/-- Reads settings from all sources, the more important first. -/
def load (given : Fields) (environment : Variables) (file : String) : Except Failure Settings :=
  let fields := given ++ variableFields (environment.map fun p => (p.1, some p.2))
    ++ variableFields (Dotenv.read environment file)
  match read fields with
  | .valid settings => .ok settings
  | .invalid found => .error (.invalid found)

end PagedQuery.Settings
