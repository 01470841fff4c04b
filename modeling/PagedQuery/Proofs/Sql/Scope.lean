import PagedQuery.Proofs.Sql.Clauses

/-! Which tables the columns of a statement are taken from. The text of every clause is put together
from pieces, of which some name a table and some refer to a column; a column is in scope if what
stands before its first point is a table that the statement names. -/
namespace PagedQuery

open Sql

inductive Piece
  | text (s : String)
  | table (name : String)
  | column (reference : String)
deriving DecidableEq, Repr

namespace Piece

def write : Piece → String
  | text s => s
  | table name => name
  | column reference => reference

def render (ps : List Piece) : String := String.join (ps.map write)

def separated (sep : String) : List (List Piece) → List Piece
  | [] => []
  | [ps] => ps
  | ps :: rest => ps ++ text sep :: separated sep rest

theorem render_nil : render [] = "" := rfl

theorem render_cons (p : Piece) (ps : List Piece) : render (p :: ps) = p.write ++ render ps := by
  simp [render]

theorem render_append (ps others : List Piece) :
    render (ps ++ others) = render ps ++ render others := by
  simp [render]

theorem render_separated (sep : String) (groups : List (List Piece)) :
    render (separated sep groups) = joinWith sep (groups.map render) := by
  induction groups with
  | nil => rfl
  | cons ps rest ih =>
    cases rest with
    | nil => rfl
    | cons others rest =>
      simp only [separated, List.map_cons, joinWith, render_append, render_cons, write] at ih ⊢
      rw [ih, String.append_assoc]

theorem mem_separated {p : Piece} (notText : ∀ s, p ≠ text s) {sep : String}
    {groups : List (List Piece)} : p ∈ separated sep groups ↔ ∃ ps ∈ groups, p ∈ ps := by
  induction groups with
  | nil => simp [separated]
  | cons ps rest ih =>
    cases rest with
    | nil => simp [separated]
    | cons others rest =>
      simp only [separated, List.mem_append, List.mem_cons, notText, false_or, ih, exists_eq_or_imp]

end Piece

/-- What stands before the first point of a reference. -/
def Qualifies (qualifier reference : String) : Prop :=
  '.' ∉ qualifier.toList ∧ ∃ name, reference = qualifier ++ "." ++ name

theorem Qualifies.unique {first second reference : String} (h : Qualifies first reference)
    (h' : Qualifies second reference) : first = second := by
  have ends : ∀ {qualifier}, Qualifies qualifier reference →
      reference.toList.takeWhile (· ≠ '.') = qualifier.toList := by
    rintro qualifier ⟨undotted, name, rfl⟩
    have chars : (qualifier ++ "." ++ name).toList = qualifier.toList ++ '.' :: name.toList := by
      simp
    rw [chars, List.takeWhile_append_of_pos]
    · simp
    · intro c member
      have other : c ≠ '.' := fun same => undotted (same ▸ member)
      simpa using other
  exact String.toList_inj.mp ((ends h).symm.trans (ends h'))

theorem Qualifies.dotted {qualifier reference : String} (h : Qualifies qualifier reference) :
    '.' ∈ reference.toList := by
  obtain ⟨_, name, rfl⟩ := h
  simp

namespace Query

open Piece

variable (q : Query)

def tableNames : List String := q.table :: q.joins.map Join.table

def selectPieces : List Piece :=
  if q.isJoined then
    [.text "SELECT ", .column (q.qualifiedTable ++ ".id"), .text (" AS " ++ rowIdAlias ++ ", *")]
  else [.text "SELECT *"]

def sourcePieces : List Piece := [.text "FROM ", .table q.qualifiedTable]

def joinLinePieces (j : Join) : List (List Piece) :=
  let joined := q.tablePrefix ++ j.table
  [.text (Keyword.text j.kind ++ " "), .table joined] ::
    j.on.map fun p => [.text "ON ", .column (q.qualifiedTable ++ "." ++ p.1),
      .text (" " ++ Keyword.text j.operator ++ " "), .column (joined ++ "." ++ p.2)]

def joinPieces : List Piece := separated " " (q.joins.flatMap q.joinLinePieces)

def termPieces (t : SortTerm) : List Piece :=
  [.column t.column, .text (" COLLATE NOCASE " ++ Keyword.text t.direction)]

def orderPieces (d : Dialect) : List Piece :=
  match q.order with
  | none => []
  | some .random => [.text ("ORDER BY " ++ d.target.randomCall)]
  | some (.by []) => []
  | some (.by terms) => .text "ORDER BY " :: separated ", " (terms.map termPieces)

/-- The columns that a clause refers to, as they are written in it. -/
def references : Clause → List String
  | .select => if q.isJoined then [q.qualifiedTable ++ ".id"] else []
  | .joins => q.joins.flatMap fun j => j.on.flatMap fun p =>
      [q.qualifiedTable ++ "." ++ p.1, q.tablePrefix ++ j.table ++ "." ++ p.2]
  | .filter => q.predicates.map fun p => q.columnText p.column
  | .order =>
    match q.order with
    | some (.by terms) => terms.map SortTerm.column
    | _ => []
  | _ => []

theorem render_selectPieces : render q.selectPieces = q.selectClause := by
  unfold selectPieces selectClause
  split
  · have joined : ".id" ++ (" AS " ++ rowIdAlias ++ ", *") = ".id AS " ++ rowIdAlias ++ ", *" := rfl
    simp only [render_cons, render_nil, write, String.append_assoc, String.append_empty] at joined ⊢
    rw [joined]
  · rfl

theorem render_joinPieces : render q.joinPieces = q.joinClause := by
  rw [joinPieces, render_separated, joinClause, List.map_flatMap]
  congr 2
  funext j
  simp [joinLinePieces, joinLines, render, write, String.append_assoc]

theorem render_orderPieces (d : Dialect) : render (q.orderPieces d) = q.orderClause d := by
  rcases order : q.order with _ | _ | _ | ⟨term, rest⟩ <;>
    simp only [orderPieces, orderClause, order]
  · rfl
  · simp [render, write]
  · rfl
  · rw [render_cons, render_separated, List.map_map]
    congr 3
    funext t
    simp [termPieces, termText, render, write, String.append_assoc]

def Introduces (name : String) : Prop :=
  .table name ∈ q.sourcePieces ∨ .table name ∈ q.joinPieces

theorem mem_joinPieces {p : Piece} (notText : ∀ s, p ≠ .text s) :
    p ∈ q.joinPieces ↔ ∃ j ∈ q.joins, ∃ line ∈ q.joinLinePieces j, p ∈ line := by
  rw [joinPieces, mem_separated notText]
  simp only [List.mem_flatMap]
  constructor
  · rintro ⟨line, ⟨j, member, inside⟩, here⟩
    exact ⟨j, member, line, inside, here⟩
  · rintro ⟨j, member, line, inside, here⟩
    exact ⟨line, ⟨j, member, inside⟩, here⟩

theorem table_mem_joinPieces_iff (name : String) :
    .table name ∈ q.joinPieces ↔ ∃ j ∈ q.joins, name = q.tablePrefix ++ j.table := by
  simp [q.mem_joinPieces, joinLinePieces]

theorem introduces_iff (name : String) :
    q.Introduces name ↔ ∃ t ∈ q.tableNames, name = q.tablePrefix ++ t := by
  simp [Introduces, q.table_mem_joinPieces_iff, sourcePieces, tableNames, qualifiedTable]

theorem column_mem_joinPieces_iff (reference : String) :
    .column reference ∈ q.joinPieces ↔ reference ∈ q.references .joins := by
  simp [q.mem_joinPieces, joinLinePieces, references, List.mem_flatMap]

theorem column_mem_orderPieces_iff (d : Dialect) (reference : String) :
    .column reference ∈ q.orderPieces d ↔ reference ∈ q.references .order := by
  rcases order : q.order with _ | _ | _ | ⟨term, rest⟩ <;>
    simp only [orderPieces, references, order]
  · simp
  · simp
  · simp
  · simp [mem_separated, termPieces, eq_comm]

structure Addressed : Prop where
  tablePrefix : '.' ∉ q.tablePrefix.toList
  tables : ∀ t ∈ q.tableNames, '.' ∉ t.toList
  filters : ∀ p ∈ q.predicates, '.' ∈ p.column.toList →
    ∃ t ∈ q.tableNames, ∃ name, p.column = t ++ "." ++ name
  order : ∀ terms, q.order = some (.by terms) → ∀ term ∈ terms, '.' ∈ term.column.toList →
    ∃ t ∈ q.tableNames, ∃ name, term.column = t ++ "." ++ name

variable {q}

theorem Addressed.qualifies (h : q.Addressed) {t : String} (member : t ∈ q.tableNames)
    (name : String) : Qualifies (q.tablePrefix ++ t) (q.tablePrefix ++ t ++ "." ++ name) := by
  refine ⟨?_, name, rfl⟩
  simp [h.tablePrefix, h.tables t member]

theorem Addressed.introduces (h : q.Addressed) {t name qualifier : String}
    (member : t ∈ q.tableNames)
    (qualifies : Qualifies qualifier (q.tablePrefix ++ t ++ "." ++ name)) :
    q.Introduces qualifier := by
  rw [qualifies.unique (h.qualifies member name), introduces_iff]
  exact ⟨t, member, rfl⟩

theorem main_mem_tableNames (q : Query) : q.table ∈ q.tableNames := List.mem_cons_self

theorem join_mem_tableNames {j : Join} (member : j ∈ q.joins) : j.table ∈ q.tableNames :=
  List.mem_cons_of_mem _ (List.mem_map_of_mem member)

theorem Addressed.select_introduced (h : q.Addressed) {reference qualifier : String}
    (refers : reference ∈ q.references .select) (qualifies : Qualifies qualifier reference) :
    q.Introduces qualifier := by
  simp only [references] at refers
  split at refers
  · have id : ".id" = "." ++ "id" := rfl
    rw [List.mem_singleton.mp refers, id, ← String.append_assoc] at qualifies
    exact h.introduces q.main_mem_tableNames qualifies
  · cases refers

theorem Addressed.joins_introduced (h : q.Addressed) {reference qualifier : String}
    (refers : reference ∈ q.references .joins) (qualifies : Qualifies qualifier reference) :
    q.Introduces qualifier := by
  simp only [references, List.mem_flatMap, List.mem_cons, List.not_mem_nil, or_false] at refers
  obtain ⟨j, member, p, _, rfl | rfl⟩ := refers
  · exact h.introduces q.main_mem_tableNames qualifies
  · exact h.introduces (join_mem_tableNames member) qualifies

/-- A comparison refers to its column with the prefix if that has a point, and the point is still
there with it. -/
theorem Addressed.filter_introduced (h : q.Addressed) {reference qualifier : String}
    (refers : reference ∈ q.references .filter) (qualifies : Qualifies qualifier reference) :
    q.Introduces qualifier := by
  obtain ⟨p, member, rfl⟩ := List.mem_map.mp refers
  unfold columnText at qualifies
  split at qualifies
  · rename_i dotted
    obtain ⟨t, known, name, same⟩ := h.filters p member (by simpa using dotted)
    have whole : q.tablePrefix ++ p.column = q.tablePrefix ++ t ++ "." ++ name := by
      rw [same]
      simp only [String.append_assoc]
    rw [whole] at qualifies
    exact h.introduces known qualifies
  · rename_i undotted
    exact absurd qualifies.dotted (by simpa using undotted)

theorem Addressed.order_known (h : q.Addressed) {reference qualifier : String}
    (refers : reference ∈ q.references .order) (qualifies : Qualifies qualifier reference) :
    qualifier ∈ q.tableNames := by
  simp only [references] at refers
  split at refers
  · rename_i terms order
    obtain ⟨term, member, rfl⟩ := List.mem_map.mp refers
    obtain ⟨t, known, name, same⟩ := h.order terms order term member qualifies.dotted
    rw [same] at qualifies
    rw [qualifies.unique ⟨h.tables t known, name, rfl⟩]
    exact known
  · cases refers

theorem not_introduces_of_plain {t : String} (known : t ∈ q.tableNames)
    (plain : ∀ t ∈ q.tableNames, ¬ q.tablePrefix.toList <+: t.toList) : ¬ q.Introduces t := by
  rw [introduces_iff]
  rintro ⟨other, _, rfl⟩
  refine plain _ known ?_
  rw [String.toList_append]
  exact List.prefix_append _ _

section Clauses

variable [Runtime]

def valueText (v : Value) : String :=
  match literal v with
  | .ok written => written
  | .error _ => ""

variable (q)

def predicatePieces (p : Predicate) : List Piece :=
  [.column (q.columnText p.column),
    .text (" " ++ Keyword.text p.operator ++ " " ++ valueText p.value)]

def filterPieces : List Piece :=
  if q.predicates.isEmpty then []
  else .text "WHERE " ::
    separated (" " ++ Keyword.text q.connective ++ " ") (q.predicates.map q.predicatePieces)

/-- The pieces of a clause of a page statement. The limit and the offset hold neither a table nor a
column, so they are pieces as they were written. -/
def pieces (d : Dialect) (limit offset : String) : Clause → List Piece
  | .select => q.selectPieces
  | .source => q.sourcePieces
  | .joins => q.joinPieces
  | .filter => q.filterPieces
  | .order => q.orderPieces d
  | .limit => [.text limit]
  | .offset => [.text offset]

theorem render_predicatePieces {p : Predicate} {text : String}
    (written : q.predicateText p = .ok text) : render (q.predicatePieces p) = text := by
  rw [predicateText_eq] at written
  obtain ⟨value, literal, rfl⟩ := Except.map_ok_iff.mp written
  simp [predicatePieces, valueText, literal, render, write, String.append_assoc]

theorem render_filterPieces {filter : String} (written : q.whereClause = .ok filter) :
    render q.filterPieces = filter := by
  unfold filterPieces
  unfold whereClause at written
  split at written
  · cases written
    exact if_pos ‹_› ▸ rfl
  · rename_i compares
    obtain ⟨texts, each, out⟩ := Except.bind_ok_iff.mp written
    have rendered := Except.map_eq_of_mapM each fun p _ text done =>
      (q.render_predicatePieces done).symm
    cases out
    rw [if_neg compares, render_cons, render_separated, List.map_map, rendered]
    rfl

theorem render_pieces {d : Dialect} {filter limit offset : String}
    (writes : q.Writes filter limit offset) (c : Clause) :
    render (q.pieces d limit offset c) = q.pageClause d filter limit offset c := by
  cases c with
  | select => exact q.render_selectPieces
  | source => simp [pieces, sourcePieces, pageClause, fromClause, render, write]
  | joins => exact q.render_joinPieces
  | filter => exact q.render_filterPieces writes.filter
  | order => exact q.render_orderPieces d
  | limit => simp [pieces, pageClause, render, write]
  | offset => simp [pieces, pageClause, render, write]

theorem column_mem_filterPieces_iff (reference : String) :
    .column reference ∈ q.filterPieces ↔ reference ∈ q.references .filter := by
  unfold filterPieces
  split
  · rename_i none
    simp [references, List.isEmpty_iff.mp none]
  · simp [mem_separated, predicatePieces, references, eq_comm]

theorem column_mem_pieces_iff (d : Dialect) (limit offset : String) (c : Clause)
    (reference : String) :
    .column reference ∈ q.pieces d limit offset c ↔ reference ∈ q.references c := by
  cases c with
  | select =>
    simp only [pieces, selectPieces, references]
    split <;> simp
  | source => simp [pieces, sourcePieces, references]
  | joins => exact q.column_mem_joinPieces_iff reference
  | filter => exact q.column_mem_filterPieces_iff reference
  | order => exact q.column_mem_orderPieces_iff d reference
  | limit => simp [pieces, references]
  | offset => simp [pieces, references]

variable {q}

/-- The clauses of a page statement are made of pieces, its columns are those that the clauses refer
to, and its tables are those of the query, each with the prefix. What stands before the first point
of a column is one of them in every clause but the order. There it is the name of a table without
the prefix, which is in scope if the prefix is empty, but not if no name of a table begins with the
prefix itself. -/
theorem qualifiers_in_scope (h : q.Addressed) (d : Dialect) :
    (∀ sql, q.pageSql d = .ok sql → ∃ filter limit offset, q.Writes filter limit offset ∧
      sql = joinWith " " ((Clause.present (q.pageClause d filter limit offset)).map fun c =>
        render (q.pieces d limit offset c))) ∧
    (∀ limit offset c reference,
      .column reference ∈ q.pieces d limit offset c ↔ reference ∈ q.references c) ∧
    (∀ name, q.Introduces name ↔ ∃ t ∈ q.tableNames, name = q.tablePrefix ++ t) ∧
    (∀ c, c ≠ .order → ∀ reference ∈ q.references c, ∀ qualifier,
      Qualifies qualifier reference → q.Introduces qualifier) ∧
    ∀ reference ∈ q.references .order, ∀ qualifier, Qualifies qualifier reference →
      qualifier ∈ q.tableNames ∧
        (q.tablePrefix = "" → q.Introduces qualifier) ∧
        ((∀ t ∈ q.tableNames, ¬ q.tablePrefix.toList <+: t.toList) →
          ¬ q.Introduces qualifier) := by
  refine ⟨?_, q.column_mem_pieces_iff d, q.introduces_iff, ?_, ?_⟩
  · intro sql written
    obtain ⟨filter, limit, offset, writes, composed⟩ := (q.pageSql_eq_ok_iff d sql).mp written
    refine ⟨filter, limit, offset, writes, ?_⟩
    simp only [q.render_pieces writes]
    exact composed
  · intro c notOrder reference refers qualifier qualifies
    cases c with
    | select => exact h.select_introduced refers qualifies
    | joins => exact h.joins_introduced refers qualifies
    | filter => exact h.filter_introduced refers qualifies
    | order => exact absurd rfl notOrder
    | _ => cases refers
  · intro reference refers qualifier qualifies
    have known := h.order_known refers qualifies
    refine ⟨known, fun none => ?_, not_introduces_of_plain known⟩
    rw [introduces_iff]
    exact ⟨qualifier, known, by rw [none, String.empty_append]⟩

end Clauses

def tracksByArtist : Value := .object [
  ("table", .string "tracks"),
  ("join", .object [("table", .string "artists"), ("on", .object [("artist_id", .string "id")])]),
  ("columns", .object [("artists.name", .string "Orbital")]),
  ("orderBy", .object [("artists.name", .string "asc")])]

theorem tracksByArtist_addressed [Runtime] {q : Query}
    (accepted : normalize tracksByArtist = .ok q) :
    q.Addressed := by
  cases accepted
  refine ⟨by decide, by decide, ?_, ?_⟩
  · rintro p member -
    cases List.mem_singleton.mp member
    exact ⟨"artists", by decide, "name", rfl⟩
  · rintro terms ⟨⟩ term member -
    cases List.mem_singleton.mp member
    exact ⟨"artists", by decide, "name", rfl⟩

open Runtime.Usual in
/-- The same column is in scope where it filters. -/
theorem filtered_artists_in_scope :
    ∃ q, normalize tracksByArtist = .ok q ∧ q.Addressed ∧
      "server_artists.name" ∈ q.references .filter ∧
      Qualifies "server_artists" "server_artists.name" ∧ q.Introduces "server_artists" := by
  have qualifies : Qualifies "server_artists" "server_artists.name" := ⟨by decide, "name", rfl⟩
  have addressed := tracksByArtist_addressed rfl
  have inScope := (qualifiers_in_scope addressed .default).2.2.2.1 .filter (by decide)
  exact ⟨_, rfl, addressed, List.mem_cons_self, qualifies,
    inScope _ List.mem_cons_self _ qualifies⟩

open Runtime.Usual in
/-- It is not where it orders. -/
theorem ordering_artists_out_of_scope :
    ∃ q, normalize tracksByArtist = .ok q ∧ q.Addressed ∧
      q.whereClause = .ok "WHERE server_artists.name = 'Orbital'" ∧
      q.orderClause .default = "ORDER BY artists.name COLLATE NOCASE ASC" ∧
      "artists.name" ∈ q.references .order ∧
      Qualifies "artists" "artists.name" ∧ ¬ q.Introduces "artists" := by
  have addressed := tracksByArtist_addressed rfl
  refine ⟨_, rfl, addressed, rfl, rfl, List.mem_cons_self, ⟨by decide, "name", rfl⟩,
    not_introduces_of_plain ?_ ?_⟩
  · decide
  · decide

end Query
end PagedQuery
