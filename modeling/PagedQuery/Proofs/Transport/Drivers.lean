import PagedQuery.Proofs.Engine.Operations
import PagedQuery.Proofs.Value.Entries

/-! Statements that a database driver runs without a failure, from the names of the columns and
the lists of values it gives to the row objects that reach an engine. -/
namespace PagedQuery

section Calls

variable {W : Type} (o : Outside W)

def Outside.Gives (c : Call) (a : c.Answer) (w w' : W) : Prop := o.answer c w = (.ok a, w')

/-- A connection is there already, or it is opened by a call. -/
def Outside.Reaches (connected : Bool) (opening : Call) (a : opening.Answer) (w w' : W) : Prop :=
  if connected then w = w' else o.Gives opening a w w'

theorem Outside.Gives.run {o : Outside W} {c : Call} {a : c.Answer} {w w' : W}
    (given : o.Gives c a w w') (log : List Event) :
    o.call c ⟨w, log⟩ = .ok a ⟨w', log ++ [⟨c, true⟩]⟩ := by
  rw [call, show o.answer c w = (.ok a, w') from given]

end Calls

namespace Act

variable {σ τ α : Type}

theorem rescue_ok {a : Act σ α} {s t : σ} {x : α} (done : a s = .ok x t)
    (f : Failure → Act σ α) : a.rescue f s = .ok x t := by
  rw [rescue, done]

theorem always_ok {a : Act σ α} {last : Act σ Unit} {s t u : σ} {x : α} (done : a s = .ok x t)
    (left : last t = .ok () u) : a.always last s = .ok x u := by
  rw [always, done]
  simp only [bind_run, left]
  rfl

theorem bind_ok {β : Type} {a : Act σ α} {s t : σ} {x : α} (done : a s = .ok x t)
    (f : α → Act σ β) : (a >>= f) s = f x t := by
  rw [bind_run, done]

theorem second_ok {a : Act σ α} {s t : σ} {x : α} (done : a s = .ok x t) (kept : τ) :
    (second a : Act (τ × σ) α) (kept, s) = .ok x (kept, t) := by
  rw [second_run, done]

end Act

namespace Sqlite

variable {W : Type} (o : Outside W)

def Delivers (t : Sqlite) (sql : String) (names : List String) (data : List (List Value))
    (w w' : W) : Prop :=
  ∃ opened pointed ran fetched,
    o.Reaches t.connected (.openSqlite t.source.1 t.source.2 t.timeout) () w opened ∧
    o.Gives .openCursor () opened pointed ∧
    o.Gives (.runCursor sql) (some names) pointed ran ∧
    o.Gives .fetchCursor data ran fetched ∧
    o.Gives .closeCursor () fetched w'

variable {o} {t : Sqlite} {w w' : W}

theorem connect_reaches
    (reached : o.Reaches t.connected (.openSqlite t.source.1 t.source.2 t.timeout) () w w')
    (log : List Event) :
    ∃ log', connect o (t, ⟨w, log⟩) = .ok () ({ t with connected := true }, ⟨w', log'⟩) := by
  obtain ⟨database, readOnly, timeout, connected⟩ := t
  cases connected with
  | true =>
    obtain rfl : w = w' := reached
    exact ⟨log, rfl⟩
  | false =>
    have opened := Act.second_ok (Outside.Gives.run reached log)
      (⟨database, readOnly, timeout, false⟩ : Sqlite)
    exact ⟨_, Act.bind_ok (Act.rescue_ok opened _) _⟩

theorem runCursor_delivers {sql : String} {names : List String} {data : List (List Value)}
    {ran : W} (named : names ≠ []) (executed : o.Gives (.runCursor sql) (some names) w ran)
    (rows : o.Gives .fetchCursor data ran w') (log : List Event) :
    runCursor o sql ⟨w, log⟩ = .ok (Table.rowObjects names data)
      ⟨w', log ++ [⟨.runCursor sql, true⟩] ++ [⟨.fetchCursor, true⟩]⟩ := by
  have present : names.isEmpty = false := by simpa using named
  have columns : Table.columnNames (some names) = names := rfl
  rw [runCursor, Act.bind_ok (executed.run log)]
  simp only [columns, present, Bool.false_eq_true, if_false]
  rw [Act.bind_ok (rows.run _)]
  rfl

theorem run_delivers {sql : String} {names : List String} {data : List (List Value)}
    {pointed ran fetched : W} (named : names ≠ []) (cursor : o.Gives .openCursor () w pointed)
    (executed : o.Gives (.runCursor sql) (some names) pointed ran)
    (rows : o.Gives .fetchCursor data ran fetched) (left : o.Gives .closeCursor () fetched w')
    (log : List Event) :
    run o sql ⟨w, log⟩ = .ok (Table.rowObjects names data)
      ⟨w', log ++ [⟨.openCursor, true⟩] ++ [⟨.runCursor sql, true⟩] ++ [⟨.fetchCursor, true⟩]
        ++ [⟨.closeCursor, true⟩]⟩ := by
  rw [run, Act.bind_ok (Act.rescue_ok (cursor.run log) _)]
  have done := runCursor_delivers named executed rows (log ++ [⟨.openCursor, true⟩])
  exact Act.always_ok (Act.rescue_ok done _) (left.run _)

theorem send_delivers {sql : String} {names : List String} {data : List (List Value)}
    (named : names ≠ []) (delivered : Delivers o t sql names data w w') (log : List Event) :
    ∃ log', send o sql (t, ⟨w, log⟩) =
      .ok (Table.rowObjects names data) ({ t with connected := true }, ⟨w', log'⟩) := by
  obtain ⟨opened, pointed, ran, fetched, reached, cursor, executed, rows, left⟩ := delivered
  obtain ⟨log', connected⟩ := connect_reaches reached log
  rw [send, Act.bind_ok connected]
  exact ⟨_, Act.second_ok (run_delivers named cursor executed rows left log') _⟩

end Sqlite

namespace Duckdb

variable {W : Type} (o : Outside W)

def Delivers (t : Duckdb) (sql : String) (names : List String) (data : List (List Value))
    (w w' : W) : Prop :=
  ∃ opened ran,
    o.Reaches t.connected (.openDuckdb t.database t.readOnly) () w opened ∧
    o.Gives (.runDuckdb sql) (some names) opened ran ∧
    o.Gives .fetchDuckdb data ran w'

variable {o} {t : Duckdb} {w w' : W}

theorem connect_reaches
    (reached : o.Reaches t.connected (.openDuckdb t.database t.readOnly) () w w')
    (log : List Event) :
    ∃ log', connect o (t, ⟨w, log⟩) = .ok () ({ t with connected := true }, ⟨w', log'⟩) := by
  obtain ⟨database, readOnly, connected⟩ := t
  cases connected with
  | true =>
    obtain rfl : w = w' := reached
    exact ⟨log, rfl⟩
  | false =>
    have opened := Act.second_ok (Outside.Gives.run reached log)
      (⟨database, readOnly, false⟩ : Duckdb)
    exact ⟨_, Act.bind_ok (Act.rescue_ok opened _) _⟩

theorem run_delivers {sql : String} {names : List String} {data : List (List Value)} {ran : W}
    (executed : o.Gives (.runDuckdb sql) (some names) w ran)
    (rows : o.Gives .fetchDuckdb data ran w') (log : List Event) :
    run o sql ⟨w, log⟩ = .ok (Table.rowObjects names data)
      ⟨w', log ++ [⟨.runDuckdb sql, true⟩] ++ [⟨.fetchDuckdb, true⟩]⟩ := by
  rw [run, Act.bind_ok (executed.run log), Act.bind_ok (rows.run _)]
  rfl

theorem send_delivers {sql : String} {names : List String} {data : List (List Value)}
    (delivered : Delivers o t sql names data w w') (log : List Event) :
    ∃ log', send o sql (t, ⟨w, log⟩) =
      .ok (Table.rowObjects names data) ({ t with connected := true }, ⟨w', log'⟩) := by
  obtain ⟨opened, ran, reached, executed, rows⟩ := delivered
  obtain ⟨log', connected⟩ := connect_reaches reached log
  rw [send, Act.bind_ok connected]
  exact ⟨_, Act.rescue_ok (Act.second_ok (run_delivers executed rows log') _) _⟩

end Duckdb

namespace Engine

variable [Runtime] {W : Type} {o : Outside W} {x : Exchange W} {w' : W} {sql : String}
  {names : List String} {data : List (List Value)}

theorem linkTo_sqlite {t : Sqlite} (named : names ≠ [])
    (delivered : Sqlite.Delivers o t sql names data x.world w') :
    ∃ log, (linkTo o).send sql (some (.sqlite t), x) = .ok (Table.rowObjects names data)
      (some (.sqlite { t with connected := true }), ⟨w', log⟩) := by
  obtain ⟨log, sent⟩ := Sqlite.send_delivers named delivered x.log
  refine ⟨log, ?_⟩
  simp only [linkTo, Act.variant, Transport.send, Act.bind_run, Act.get_run]
  rw [sent]

theorem linkTo_duckdb {t : Duckdb} (delivered : Duckdb.Delivers o t sql names data x.world w') :
    ∃ log, (linkTo o).send sql (some (.duckdb t), x) = .ok (Table.rowObjects names data)
      (some (.duckdb { t with connected := true }), ⟨w', log⟩) := by
  obtain ⟨log, sent⟩ := Duckdb.send_delivers delivered x.log
  refine ⟨log, ?_⟩
  simp only [linkTo, Act.variant, Transport.send, Act.bind_run, Act.get_run]
  rw [sent]

end Engine

namespace Table

theorem find?_zip_absent (names : List String) (values : List Value) {c : String}
    (absent : c ∉ names) : Entries.find? c (names.zip values) = none := by
  rw [Entries.find?_eq_none_iff]
  intro member
  obtain ⟨entry, inside, rfl⟩ := List.mem_map.mp member
  exact absent (List.of_mem_zip inside).1

theorem find?_rowFields_absent (names : List String) (values : List Value) {c : String}
    (absent : c ∉ names) : Entries.find? c (rowFields names values) = none := by
  have outside := find?_zip_absent names values absent
  rw [Entries.find?_eq_none_iff] at outside
  rw [rowFields, Entries.find?_ofPairs, Entries.find?_eq_none_iff]
  simpa using outside

/-- What a row object of a table holds: under each name the value of the last column that has
it. -/
theorem find?_rowFields {names : List String} {values : List Value}
    (wide : values.length = names.length) {c : String} {i : Nat} (here : names[i]? = some c)
    (last : c ∉ names.drop (i + 1)) : Entries.find? c (rowFields names values) = values[i]? := by
  obtain ⟨inside, rfl⟩ := List.getElem?_eq_some_iff.mp here
  have reached : i < values.length := wide ▸ inside
  have split : names.zip values = (names.take i).zip (values.take i) ++
      (names[i], values[i]) :: (names.drop (i + 1)).zip (values.drop (i + 1)) := by
    rw [← List.zip_cons_cons, ← List.drop_eq_getElem_cons, ← List.drop_eq_getElem_cons,
      ← List.zip_append (by simp [wide]), List.take_append_drop, List.take_append_drop]
  rw [rowFields, split, Entries.find?_ofPairs_last (find?_zip_absent _ _ last),
    List.getElem?_eq_getElem reached]

end Table

end PagedQuery
