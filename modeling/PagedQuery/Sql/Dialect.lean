import PagedQuery.Text.Case

/-!
Dialects of SQL. Several names stand for one dialect; a name that is not known stands for the
default one.
-/
namespace PagedQuery

inductive Target
  | sqlite
  | duckdb
  | postgres
  | mysql
  | tsql
deriving DecidableEq, Repr

def Target.name : Target → String
  | sqlite => "sqlite"
  | duckdb => "duckdb"
  | postgres => "postgres"
  | mysql => "mysql"
  | tsql => "tsql"

def Target.ofName? : String → Option Target
  | "sqlite" => some sqlite
  | "duckdb" => some duckdb
  | "postgres" | "postgresql" => some postgres
  | "mysql" | "mariadb" => some mysql
  | "sqlserver" | "mssql" => some tsql
  | _ => none

def Target.randomCall : Target → String
  | mysql => "RAND()"
  | tsql => "NEWID()"
  | _ => "RANDOM()"

/-- The dialect that statements are built in, under the small form of the name it was given. -/
structure Dialect where
  name : String
deriving DecidableEq, Repr

namespace Dialect

def ofName (name : String) : Dialect := ⟨Text.lower name⟩

def default : Dialect := ⟨"sqlite"⟩

def target (d : Dialect) : Target := (Target.ofName? d.name).getD .sqlite

end Dialect
end PagedQuery
