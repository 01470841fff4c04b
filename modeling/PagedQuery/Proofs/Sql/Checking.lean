import PagedQuery.Proofs.Text.SmallForms
import PagedQuery.Proofs.Transport.Turns
import PagedQuery.Query.Normalize
import PagedQuery.Script
import PagedQuery.Sql.Check
import PagedQuery.Sql.Statement

/-! Statements that are checked and converted. Each takes one turn with the parser, in a dialect
that is found by its names in any letter case. A conversion reports whatever the parser raises. A
check looks for the exception of statements that do not parse, which the others of the parser are
no kind of: they pass it. -/
namespace PagedQuery

namespace Target

def names : Target → List String
  | sqlite => ["sqlite"]
  | duckdb => ["duckdb"]
  | postgres => ["postgres", "postgresql"]
  | mysql => ["mysql", "mariadb"]
  | tsql => ["sqlserver", "mssql"]

theorem ofName?_iff {s : String} {t : Target} : ofName? s = some t ↔ s ∈ t.names := by
  constructor
  · intro found
    unfold ofName? at found
    split at found <;> cases found <;> decide
  · intro listed
    cases t <;> simp only [names, List.mem_cons, List.not_mem_nil, or_false] at listed
    case sqlite | duckdb => exact listed ▸ rfl
    all_goals rcases listed with rfl | rfl <;> rfl

def Named (t : Target) (s : String) : Prop := Text.lower s ∈ t.names

theorem named_iff {s : String} {t : Target} : t.Named s ↔ ofName? (Text.lower s) = some t :=
  ofName?_iff.symm

inductive FirstNamed : List String → Target → Prop
  | here {s : String} {t : Target} (named : t.Named s) (rest : List String) :
    FirstNamed (s :: rest) t
  | later {s : String} {rest : List String} {t : Target} (unknown : ∀ u : Target, ¬ u.Named s)
    (first : FirstNamed rest t) : FirstNamed (s :: rest) t

theorem FirstNamed.getD {rest : List String} {t : Target} (first : FirstNamed rest t)
    (s : String) : FirstNamed (s :: rest) ((ofName? (Text.lower s)).getD t) := by
  cases known : ofName? (Text.lower s) with
  | some u => exact .here (named_iff.mpr known) rest
  | none => exact .later (fun u named => nomatch known.symm.trans (named_iff.mp named)) first

theorem sqlite_named : sqlite.Named "sqlite" := List.mem_singleton.mpr (by decide +kernel)

end Target

namespace Dialect

theorem checkTarget_none (builder : String) :
    (ofName builder).checkTarget none = (ofName builder).target := by
  have small := Text.lower_lower builder
  simp only [checkTarget, target, ofName, Option.filter_none, Option.getD_none, small]
  cases Target.ofName? (Text.lower builder) <;> rfl

theorem checkTarget_some (builder s : String) : (ofName builder).checkTarget (some s) =
    (Target.ofName? (Text.lower s)).getD (ofName builder).target := by
  by_cases empty : s = ""
  · have unknown : Target.ofName? (Text.lower "") = none := rfl
    rw [empty, unknown]
    exact checkTarget_none builder
  · have given : (some s).filter (fun s => !s.isEmpty) = some s := by
      simpa [Option.filter] using empty
    rw [checkTarget, given]
    rfl

theorem target_first (builder : String) :
    Target.FirstNamed [builder, "sqlite"] (ofName builder).target :=
  Target.FirstNamed.getD (.here Target.sqlite_named []) builder

theorem checkTarget_first (builder : String) (asked : Option String) :
    Target.FirstNamed (asked.toList ++ [builder, "sqlite"])
      ((ofName builder).checkTarget asked) := by
  cases asked with
  | none =>
    rw [checkTarget_none]
    exact target_first builder
  | some s =>
    rw [checkTarget_some]
    exact (target_first builder).getD s

inductive Written (name : String) : String → Prop
  | known {t : Target} (named : t.Named name) : Written name t.name
  | unknown (unknown : ∀ t : Target, ¬ t.Named name) : Written name name

theorem convertTarget_written (name : String) : Written name (convertTarget name) := by
  unfold convertTarget
  split
  · next t known => exact .known (Target.named_iff.mpr known)
  · next unknown =>
    exact .unknown fun t named => nomatch unknown.symm.trans (Target.named_iff.mp named)

inductive Checks : Except Failure Unit → Except Failure (Option String) → Prop
  | parsed : Checks (.ok ()) (.ok none)
  | unparsed (text : String) :
    Checks (.error (.thrown ⟨.sqlParser, "ParseError", text⟩)) (.ok (some text))
  | sibling {name text : String} (sibling : name ≠ "ParseError") :
    Checks (.error (.thrown ⟨.sqlParser, name, text⟩)) (.error (.thrown ⟨.sqlParser, name, text⟩))
  | foreign {f : Failure} (foreign : ∀ e, f = .thrown e → e.origin ≠ .sqlParser) :
    Checks (.error f) (.error f)

def conversionError (name reason : String) : Report where
  kind := .sqlBuilder
  message := .string ("Failed to convert SQL to " ++ name ++ ": " ++ reason)

inductive Converts [Runtime] (name : String) :
    Except Failure (List String) → Except Failure String → Prop
  | first (statement : String) (rest : List String) :
    Converts name (.ok (statement :: rest)) (.ok statement)
  | nothing :
    Converts name (.ok []) (.error (.reported (conversionError name "list index out of range")))
  | failed (f : Failure) :
    Converts name (.error f) (.error (.reported (conversionError name f.text)))

theorem Checks.unique {outcome : Except Failure Unit}
    {result other : Except Failure (Option String)}
    (checks : Checks outcome result) (again : Checks outcome other) : result = other := by
  cases checks with
  | parsed => cases again; rfl
  | unparsed text =>
    cases again with
    | unparsed => rfl
    | sibling sibling => exact absurd rfl sibling
    | foreign foreign => exact absurd rfl (foreign _ rfl)
  | sibling sibling =>
    cases again with
    | unparsed => exact absurd rfl sibling
    | sibling => rfl
    | foreign => rfl
  | foreign foreign =>
    cases again with
    | unparsed => exact absurd rfl (foreign _ rfl)
    | sibling => rfl
    | foreign => rfl

/-- The code around the parser looks for one exception by its name, and for nothing else. -/
theorem checks_thrown (e : Thrown) : Checks (.error (.thrown e))
    (if e.isParseFailure then .ok (some e.text) else .error (.thrown e)) := by
  obtain ⟨origin, name, text⟩ := e
  by_cases own : origin = .sqlParser
  · subst own
    by_cases parse : name = "ParseError"
    · subst parse
      exact .unparsed text
    · rw [if_neg (by simpa [Thrown.isParseFailure] using parse)]
      exact .sibling parse
  · rw [if_neg (by simp [Thrown.isParseFailure, own])]
    refine .foreign fun e same => ?_
    cases same
    exact own

variable {W : Type}

theorem check_settles (o : Outside W) (d : Dialect) (sql : String) (asked : Option String)
    (x : Exchange W) :
    ∃ outcome result y, o.Settles id (d.check o sql asked) x result
      [⟨.parse sql (d.checkTarget asked).name, outcome⟩] y ∧ Checks outcome result := by
  obtain ⟨outcome, y, answered⟩ :=
    Outside.Settles.call o (.parse sql (d.checkTarget asked).name) x
  have told := answered.mapped fun _ => (none : Option String)
  cases outcome with
  | ok answer => exact ⟨_, _, y, told.unhandled _, .parsed⟩
  | error f =>
    cases f with
    | thrown e =>
      refine ⟨_, _, y, told.handled ?_, checks_thrown e⟩
      dsimp only
      split <;> rfl
    | _ => exact ⟨_, .error _, y, told.handled rfl, .foreign nofun⟩

section Converting

variable [Runtime]

theorem Converts.unique {name : String} {outcome : Except Failure (List String)}
    {result other : Except Failure String} (converts : Converts name outcome result)
    (again : Converts name outcome other) : result = other := by
  cases converts <;> cases again <;> rfl

theorem convert_settles (o : Outside W) (d : Dialect) (sql name : String) (x : Exchange W) :
    ∃ outcome result y, o.Settles id (d.convert o sql name) x result
      [⟨.transpile sql d.target.name (convertTarget name), outcome⟩] y ∧
      Converts name outcome result := by
  obtain ⟨outcome, y, answered⟩ :=
    Outside.Settles.call o (.transpile sql d.target.name (convertTarget name)) x
  have told := answered.reported fun f => convertFailure name f.text
  cases outcome with
  | error f => exact ⟨_, _, y, told.bind_error _, .failed f⟩
  | ok statements =>
    cases statements with
    | nil => exact ⟨_, _, y, told.bind (.ofExcept o id (.error _) y), .nothing⟩
    | cons s rest => exact ⟨_, _, y, told.bind (.ofExcept o id (.ok s) y), .first s rest⟩

/-- A check and a conversion each take one turn with the parser. A check is in the dialect asked for
if that is known, and otherwise in the one that statements are built in; it tells whether the
statement parses, unless the parser raises an exception of another kind. A conversion is from the
dialect that statements are built in, and everything but a first statement is reported with the
name that was asked for. -/
theorem parser_outcomes_told (o : Outside W) (builder sql : String) (x : Exchange W) :
    (∀ asked, ∃ t outcome result y,
      Target.FirstNamed (asked.toList ++ [builder, "sqlite"]) t ∧
      o.Settles id ((ofName builder).check o sql asked) x result
        [⟨.parse sql t.name, outcome⟩] y ∧
      ∀ other, result = other ↔ Checks outcome other) ∧
    ∀ name, ∃ t target outcome result y,
      Target.FirstNamed [builder, "sqlite"] t ∧ Written name target ∧
      o.Settles id ((ofName builder).convert o sql name) x result
        [⟨.transpile sql t.name target, outcome⟩] y ∧
      ∀ other, result = other ↔ Converts name outcome other := by
  constructor
  · intro asked
    obtain ⟨outcome, result, y, settles, checks⟩ := check_settles o (ofName builder) sql asked x
    refine ⟨_, outcome, result, y, checkTarget_first builder asked, settles, fun other => ?_⟩
    exact ⟨fun same => same ▸ checks, checks.unique⟩
  · intro name
    obtain ⟨outcome, result, y, settles, converts⟩ :=
      convert_settles o (ofName builder) sql name x
    refine ⟨_, _, outcome, result, y, target_first builder, convertTarget_written name, settles,
      fun other => ?_⟩
    exact ⟨fun same => same ▸ converts, converts.unique⟩

end Converting

def dontStop : Value := .object [
  ("table", .string "tracks"),
  ("columns", .object [("title", .string "Don't Stop")])]

def dontStopSql : String := "SELECT * FROM server_tracks WHERE title = 'Don't Stop' LIMIT 100"

def unclosedQuote : Thrown := ⟨.sqlParser, "TokenError", "Missing ' from 1:53"⟩

def openQuote : Exchange Script :=
  ⟨Script.ofReplies [{ failure := some (.thrown unclosedQuote) }], []⟩

open Runtime.Usual in
/-- A quote in a value leaves a quote open in the statement. The exception for that passes a check,
where a conversion reports it. -/
theorem unclosed_quote_unreported :
    ∃ q y z, Query.normalize dontStop = .ok q ∧ q.pageSql (ofName "sqlite") = .ok dontStopSql ∧
      (ofName "sqlite").check scripted dontStopSql none openQuote =
        .error (.thrown unclosedQuote) y ∧
      (ofName "sqlite").convert scripted dontStopSql "postgres" openQuote =
        .error (.reported (conversionError "postgres" "Missing ' from 1:53")) z :=
  ⟨_, _, _, rfl, rfl, rfl, rfl⟩

end Dialect
end PagedQuery
