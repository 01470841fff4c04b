import Mathlib.Data.List.Forall2
import PagedQuery.Proofs.Transport.Drivers

/-! The id of the main table in the rows of joined tables. A joined row brings it under a name of
its own, and it takes the place of the id that the joined table wrote over it. -/
namespace PagedQuery

namespace Row

open Entries

inductive Restored (row : Fields) : Fields → Prop
  | unmarked (absent : find? rowIdAlias row = none) : Restored row row
  | replaced {id old : Value} {before after : Fields} (marked : find? rowIdAlias row = some id)
    (placed : row = before ++ (idName, old) :: after) (first : find? idName before = none) :
    Restored row (erase rowIdAlias before ++ (idName, id) :: erase rowIdAlias after)
  | added {id : Value} (marked : find? rowIdAlias row = some id)
    (absent : find? idName row = none) : Restored row (erase rowIdAlias row ++ [(idName, id)])

theorem idName_ne_alias : idName ≠ rowIdAlias := by decide

theorem restore_unmarked {row : Fields} (absent : find? rowIdAlias row = none) :
    restore row = row := by
  rw [restore, restoreUnder, absent]

theorem restore_marked {row : Fields} {id : Value} (marked : find? rowIdAlias row = some id) :
    restore row = insert idName id (erase rowIdAlias row) := by
  rw [restore, restoreUnder, marked]

theorem restore_restored (row : Fields) : Restored row (restore row) := by
  cases marked : find? rowIdAlias row with
  | none =>
    rw [restore_unmarked marked]
    exact .unmarked marked
  | some id =>
    rw [restore_marked marked]
    cases present : find? idName row with
    | none =>
      rw [insert_absent ((find?_erase_other idName_ne_alias row).trans present)]
      exact .added marked present
    | some old =>
      obtain ⟨before, after, placed, first⟩ := find?_eq_some present
      have kept : erase rowIdAlias row =
          erase rowIdAlias before ++ (idName, old) :: erase rowIdAlias after := by
        rw [placed, erase_append]
        rfl
      rw [kept, insert_present ((find?_erase_other idName_ne_alias before).trans first)]
      exact .replaced marked placed first

theorem find?_restore_alias (row : Fields) : find? rowIdAlias (restore row) = none := by
  cases marked : find? rowIdAlias row with
  | none => rw [restore_unmarked marked, marked]
  | some id =>
    rw [restore_marked marked, find?_insert_other idName_ne_alias.symm, find?_erase_self]

theorem find?_restore_id {row : Fields} {id : Value} (marked : find? rowIdAlias row = some id) :
    find? idName (restore row) = some id := by
  rw [restore_marked marked, find?_insert_self]

theorem find?_restore_other {name : String} (notId : name ≠ idName) (notAlias : name ≠ rowIdAlias)
    (row : Fields) : find? name (restore row) = find? name row := by
  cases marked : find? rowIdAlias row with
  | none => rw [restore_unmarked marked]
  | some id => rw [restore_marked marked, find?_insert_other notId, find?_erase_other notAlias]

theorem restore_restore (row : Fields) : restore (restore row) = restore row :=
  restore_unmarked (find?_restore_alias row)

def ofObjects (rows : List Fields) : List Row := rows.map fun row => .value (.object row)

theorem ofReply_joined (rows : List Fields) :
    ofReply true (.list (rows.map .object)) = .ok (ofObjects (rows.map restore)) := by
  have each : (rows.map Value.object).mapM ofJoined = .ok (ofObjects (rows.map restore)) := by
    induction rows with
    | nil => rfl
    | cons row rest ih =>
      rw [List.map_cons, List.mapM_cons, ih]
      rfl
  exact each

theorem ofReply_single (items : List Value) :
    ofReply false (.list items) = .ok (items.map .value) := rfl

structure Labelled (names : List String) (values : List Value) (row : Fields) : Prop where
  id : ∀ i : Nat, names[i]? = some rowIdAlias → find? idName row = values[i]?
  other : ∀ (name : String) (i : Nat), name ≠ idName → name ≠ rowIdAlias →
    names[i]? = some name → name ∉ names.drop (i + 1) → find? name row = values[i]?
  absent : find? rowIdAlias row = none
  named : ∀ name, name ≠ idName → name ∉ names → find? name row = none

theorem restore_labelled {names : List String} {values : List Value}
    (wide : values.length = names.length) (once : names.count rowIdAlias = 1) :
    Labelled names values (restore (Table.rowFields names values)) where
  id := by
    intro i here
    obtain ⟨inside, same⟩ := List.getElem?_eq_some_iff.mp here
    have last : rowIdAlias ∉ names.drop (i + 1) := by
      -- the one place that is counted is `i`
      rw [← List.take_append_drop i names, List.count_append, List.drop_eq_getElem_cons inside,
        same, List.count_cons_self] at once
      exact List.count_eq_zero.mp (by omega)
    have marked := Table.find?_rowFields wide here last
    rw [List.getElem?_eq_getElem (wide ▸ inside)] at marked ⊢
    exact find?_restore_id marked
  other := by
    intro name i notId notAlias here last
    rw [find?_restore_other notId notAlias, Table.find?_rowFields wide here last]
  absent := find?_restore_alias _
  named := by
    intro name notId outside
    have notAlias : name ≠ rowIdAlias := by
      rintro rfl
      rw [List.count_eq_zero.mpr outside] at once
      cases once
    rw [find?_restore_other notId notAlias, Table.find?_rowFields_absent names values outside]

end Row

namespace Engine

open Row

variable [Runtime] {σ : Type} {link : Link σ} {e : Engine} {s t : σ}

structure Presents (link : Link σ) (e : Engine) (sql : String) (s t : σ) (rows : List Row) :
    Prop where
  execute : sql = e.sql → execute link (e, s) = .ok () ({ e with rows := rows }, t)
  turnTo : ∀ page, { e.query with page := page }.pageSql e.dialect = .ok sql →
    turnTo link page (e, s) = .ok () ({ e with
      query := { e.query with page := page }
      sql := sql
      rows := rows
      page := some page }, t)

theorem Presents.of_reply {sql : String} {reply : Value} {rows : List Row}
    (answered : link.send sql s = .ok reply t)
    (read : Row.ofReply e.query.isJoined reply = .ok rows) : Presents link e sql s t rows := by
  have fetched : link.page e.query.isJoined sql s = .ok rows t := by
    rw [Link.page, Act.bind_run, answered]
    simp only [read]
    rfl
  constructor
  · rintro rfl
    rw [execute_run, fetched]
  · intro page written
    rw [turnTo_run, written]
    simp only [fetched]

theorem Presents.of_table (joined : e.query.isJoined = true) {names : List String}
    (once : names.count rowIdAlias = 1) {data : List (List Value)}
    (wide : ∀ values ∈ data, values.length = names.length) {sql : String}
    (answered : link.send sql s = .ok (Table.rowObjects names data) t) :
    ∃ rows, Presents link e sql s t (ofObjects rows) ∧
      List.Forall₂ (Labelled names) data rows := by
  have objects : Table.rowObjects names data =
      .list ((data.map (Table.rowFields names)).map .object) := by
    rw [Table.rowObjects, List.map_map]
    rfl
  rw [objects] at answered
  refine ⟨_, .of_reply answered (joined ▸ ofReply_joined _), ?_⟩
  rw [List.map_map, List.forall₂_map_right_iff, List.forall₂_same]
  exact fun values member => restore_labelled (wide values member) once

/-- The rows of joined tables keep the id of the main table, whatever brings them, and all other
entries stay as they are and in order. Rows of a single table are shown as they come. -/
theorem primary_id_survives_join {W : Type} (link : Link σ) (o : Outside W) (e : Engine) :
    (e.query.isJoined = true → ∀ (rows : List Fields) (sql : String) (s t : σ),
      link.send sql s = .ok (.list (rows.map .object)) t →
      ∃ restored, Presents link e sql s t (ofObjects restored) ∧
        List.Forall₂ Restored rows restored ∧
        Row.ofReply true (.list (restored.map .object)) = .ok (ofObjects restored)) ∧
    (e.query.isJoined = false → ∀ (items : List Value) (sql : String) (s t : σ),
      link.send sql s = .ok (.list items) t → Presents link e sql s t (items.map .value)) ∧
    (e.query.isJoined = true → ∀ (names : List String) (data : List (List Value)),
      names.count rowIdAlias = 1 → (∀ values ∈ data, values.length = names.length) →
      ∀ (sql : String) (x : Exchange W) (w : W),
        (∀ t : Sqlite, t.Delivers o sql names data x.world w →
          ∃ rows log, Presents (linkTo o) e sql (some (.sqlite t), x)
              (some (.sqlite { t with connected := true }), ⟨w, log⟩) (ofObjects rows) ∧
            List.Forall₂ (Labelled names) data rows) ∧
        (∀ t : Duckdb, t.Delivers o sql names data x.world w →
          ∃ rows log, Presents (linkTo o) e sql (some (.duckdb t), x)
              (some (.duckdb { t with connected := true }), ⟨w, log⟩) (ofObjects rows) ∧
            List.Forall₂ (Labelled names) data rows)) := by
  refine ⟨fun joined rows sql s t answered => ?_, fun single items sql s t answered => ?_,
    fun joined names data once wide sql x w => ⟨fun t delivered => ?_, fun t delivered => ?_⟩⟩
  · have again : (rows.map restore).map restore = rows.map restore := by
      rw [List.map_map]
      exact List.map_congr_left fun row _ => restore_restore row
    refine ⟨rows.map restore, .of_reply answered (joined ▸ ofReply_joined rows), ?_, ?_⟩
    · rw [List.forall₂_map_right_iff, List.forall₂_same]
      exact fun row _ => restore_restored row
    · rw [ofReply_joined, again]
  · exact .of_reply answered (single ▸ ofReply_single items)
  · have named : names ≠ [] := by
      rintro rfl
      cases once
    obtain ⟨log, answered⟩ := linkTo_sqlite named delivered
    obtain ⟨rows, shown, labelled⟩ := Presents.of_table joined once wide answered
    exact ⟨rows, log, shown, labelled⟩
  · obtain ⟨log, answered⟩ := linkTo_duckdb delivered
    obtain ⟨rows, shown, labelled⟩ := Presents.of_table joined once wide answered
    exact ⟨rows, log, shown, labelled⟩

def taggedTracks : Engine where
  query := {
    table := "tracks"
    tablePrefix := ""
    filters := []
    connective := .and
    operator := .equal
    order := none
    joins := [⟨"artists", [("artist", "id")], .equal, .left⟩]
    pageSize := -1
    page := .whole 1
    mode := none }
  dialect := Dialect.default
  ownsTransport := false
  sql := "SELECT tracks.id AS _primaryTableRowId, * FROM tracks LEFT JOIN artists " ++
    "ON tracks.artist = artists.id"
  rows := []
  page := none
  pages := none
  total := none

/-- A driver with one joined row, in which both tables have an id. -/
def artistDriver : Outside Unit where
  answer c w := match c with
    | .openSqlite .. | .openCursor | .closeCursor => (.ok (), w)
    | .runCursor _ => (.ok (some [rowIdAlias, "id", "artist", "id", "name"]), w)
    | .fetchCursor => (.ok [[.int 4, .int 4, .int 10, .int 10, .string "abba"]], w)
    | _ => (.error (.fault .missingAttribute), w)

open Runtime.Usual in
theorem track_keeps_own_id :
    ∃ row log, execute (linkTo artistDriver)
        (taggedTracks, (some (.sqlite (Sqlite.make {})), ⟨(), []⟩)) =
          .ok () ({ taggedTracks with rows := [.value (.object row)] },
            (some (.sqlite { Sqlite.make {} with connected := true }), ⟨(), log⟩)) ∧
      Entries.find? "id" row = some (.int 4) ∧ Entries.find? "name" row = some (.string "abba") ∧
      Entries.find? rowIdAlias row = none := by
  have delivered : Sqlite.Delivers artistDriver (Sqlite.make {}) taggedTracks.sql
      [rowIdAlias, "id", "artist", "id", "name"]
      [[.int 4, .int 4, .int 10, .int 10, .string "abba"]] () () :=
    ⟨(), (), (), (), rfl, rfl, rfl, rfl, rfl⟩
  obtain ⟨rows, log, presents, labelled⟩ :=
    ((primary_id_survives_join (linkTo artistDriver) artistDriver taggedTracks).2.2 rfl _ _
      (by decide) (by simp) _ ⟨(), []⟩ ()).1 _ delivered
  cases labelled with
  | cons row rest =>
    cases rest
    refine ⟨_, log, presents.execute rfl, row.id 0 rfl, ?_, row.absent⟩
    exact row.other "name" 4 (by decide) (by decide) rfl (by decide)

end Engine
end PagedQuery
