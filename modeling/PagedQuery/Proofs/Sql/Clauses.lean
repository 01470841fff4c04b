import PagedQuery.Proofs.Query.Reading
import PagedQuery.Proofs.Sql.Filtering
import PagedQuery.Proofs.Sql.Window

/-! The clauses of a statement by what they are for. A statement is made of those that are present,
always in the same order; a page statement and a count statement differ in which they have. -/
namespace PagedQuery

inductive Clause
  | select
  | source
  | joins
  | filter
  | order
  | limit
  | offset
deriving DecidableEq, Repr

namespace Clause

def all : List Clause := [.select, .source, .joins, .filter, .order, .limit, .offset]

/-- The words of which a clause opens with one. -/
def openings : Clause → List String
  | select => ["SELECT "]
  | source => ["FROM "]
  | joins => ["LEFT JOIN ", "INNER JOIN ", "CROSS JOIN "]
  | filter => ["WHERE "]
  | order => ["ORDER BY "]
  | limit => ["LIMIT "]
  | offset => ["OFFSET "]

def Opens (c : Clause) (text : String) : Prop := ∃ word ∈ c.openings, word.toList <+: text.toList

def present (text : Clause → String) : List Clause := all.filter fun c => !(text c).isEmpty

theorem Opens.of_word {c : Clause} (word rest : String) (member : word ∈ c.openings) :
    c.Opens (word ++ rest) := by
  refine ⟨word, member, ?_⟩
  rw [String.toList_append]
  exact List.prefix_append _ _

theorem mem_present {text : Clause → String} {c : Clause} : c ∈ present text ↔ text c ≠ "" := by
  have listed : c ∈ all := by cases c <;> decide
  simp [present, listed]

end Clause

structure Arranged (text : Clause → String) (sql : String) : Prop where
  composed : sql = joinWith " " ((Clause.present text).map text)
  ordered : (Clause.present text).Sublist Clause.all
  opens : ∀ c ∈ Clause.present text, c.Opens (text c)
  skips : .offset ∈ Clause.present text → .limit ∈ Clause.present text

namespace Query

open Clause

variable (q : Query)

/-- The clauses of a page statement. Those that need a text for a value or a number may have none,
so they are given as they were written. -/
def pageClause (d : Dialect) (filter limit offset : String) : Clause → String
  | .select => q.selectClause
  | .source => q.fromClause
  | .joins => q.joinClause
  | .filter => filter
  | .order => q.orderClause d
  | .limit => limit
  | .offset => offset

def countClause (filter limit : String) : Clause → String
  | .select => countProjection
  | .source => q.fromClause
  | .joins => q.joinClause
  | .filter => filter
  | .order => ""
  | .limit => limit
  | .offset => ""

theorem sentence_all (text : Clause → String) :
    sentence (all.map text) = joinWith " " ((present text).map text) := by
  rw [sentence, List.filter_map]
  rfl

theorem selectClause_opens : Clause.select.Opens q.selectClause := by
  cases joined : q.isJoined with
  | true =>
    rw [selectClause_joined joined, String.append_assoc]
    exact .of_word "SELECT " _ (by decide)
  | false =>
    rw [selectClause_single joined]
    exact .of_word "SELECT " "*" (by decide)

theorem joinClause_opens (present : q.joinClause ≠ "") : Clause.joins.Opens q.joinClause := by
  cases joins : q.joins with
  | nil => exact absurd (by rw [joinClause, joins]; rfl) present
  | cons j rest =>
    have kind : Keyword.text j.kind ++ " " ∈ Clause.joins.openings := by
      cases j.kind <;> decide
    refine ⟨_, kind, ?_⟩
    rw [joinClause, joins, List.flatMap_cons, joinLines, List.cons_append, Sql.joinWith_toList]
    simp only [String.toList_append, List.append_assoc]
    exact ⟨_, by simp only [List.append_assoc]; rfl⟩

theorem orderClause_opens {d : Dialect} (present : q.orderClause d ≠ "") :
    Clause.order.Opens (q.orderClause d) := by
  rcases order : q.order with _ | _ | _ | _ <;>
    simp only [orderClause, order, ne_eq, not_true_eq_false] at present ⊢
  · exact .of_word "ORDER BY " _ (by decide)
  · exact .of_word "ORDER BY " _ (by decide)

theorem offsetClause_present {q : Query} {offset : String} (written : q.offsetClause = .ok offset)
    (present : offset ≠ "") : q.isUnbounded = false ∧
      ∃ skipped text, q.offset = .ok skipped ∧ skipped.text = .ok text ∧
        offset = "OFFSET " ++ text := by
  unfold offsetClause at written
  split at written
  · cases written
    exact absurd rfl present
  · rename_i counted
    rw [Bool.or_eq_true, not_or, Bool.not_eq_true] at counted
    simp only [Except.bind_ok_iff] at written
    obtain ⟨skipped, computed, text, numbered, out⟩ := written
    exact ⟨counted.1, skipped, text, computed, numbered, (Except.ok.inj out).symm⟩

theorem limitClause_opens {limit : String} (written : q.limitClause = .ok limit)
    (present : limit ≠ "") : Clause.limit.Opens limit := by
  rw [limitClause_present written present]
  exact .of_word "LIMIT " _ (by decide)

variable [Runtime]

structure Writes (filter limit offset : String) : Prop where
  filter : q.whereClause = .ok filter
  limit : q.limitClause = .ok limit
  offset : q.offsetClause = .ok offset

theorem pageSql_eq_ok_iff (d : Dialect) (sql : String) :
    q.pageSql d = .ok sql ↔ ∃ filter limit offset, q.Writes filter limit offset ∧
      sql = joinWith " " ((present (q.pageClause d filter limit offset)).map
        (q.pageClause d filter limit offset)) := by
  simp only [← sentence_all, pageSql_ok_iff]
  constructor
  · rintro ⟨filter, limit, offset, filtered, limited, skipped, rfl⟩
    exact ⟨filter, limit, offset, ⟨filtered, limited, skipped⟩, rfl⟩
  · rintro ⟨filter, limit, offset, ⟨filtered, limited, skipped⟩, rfl⟩
    exact ⟨filter, limit, offset, filtered, limited, skipped, rfl⟩

theorem countSql_eq_ok_iff (sql : String) :
    q.countSql = .ok sql ↔ ∃ filter limit, q.whereClause = .ok filter ∧ q.limitClause = .ok limit ∧
      sql = joinWith " " ((present (q.countClause filter limit)).map
        (q.countClause filter limit)) := by
  have absent : (!("" : String).isEmpty) = false := rfl
  have counted (filter limit : String) : sentence (all.map (q.countClause filter limit)) =
      sentence [countProjection, q.fromClause, q.joinClause, filter, limit] := by
    simp only [sentence, all, countClause, List.map_cons, List.map_nil, List.filter_cons, absent]
    rfl
  simp only [← sentence_all, counted, countSql_ok_iff]

variable {q}

theorem whereClause_opens {filter : String} (written : q.whereClause = .ok filter)
    (present : filter ≠ "") : Clause.filter.Opens filter := by
  by_cases compares : q.predicates = []
  · cases (whereClause_absent compares).symm.trans written
    exact absurd rfl present
  · rw [whereClause_present compares] at written
    obtain ⟨text, -, rfl⟩ := Except.map_ok_iff.mp written
    exact .of_word "WHERE " _ (by decide)

theorem page_arranged {d : Dialect} {sql : String} (written : q.pageSql d = .ok sql) :
    ∃ filter limit offset, q.Writes filter limit offset ∧
      Arranged (q.pageClause d filter limit offset) sql := by
  obtain ⟨filter, limit, offset, writes, composed⟩ := (pageSql_eq_ok_iff q d sql).mp written
  refine ⟨filter, limit, offset, writes, composed, List.filter_sublist, ?_, ?_⟩
  · intro c present
    rw [mem_present] at present
    cases c with
    | select => exact q.selectClause_opens
    | source => exact .of_word "FROM " _ (by decide)
    | joins => exact q.joinClause_opens present
    | filter => exact whereClause_opens writes.filter present
    | order => exact q.orderClause_opens present
    | limit => exact q.limitClause_opens writes.limit present
    | offset =>
      obtain ⟨_, _, text, _, _, same⟩ := offsetClause_present writes.offset present
      rw [pageClause, same]
      exact .of_word "OFFSET " text (by decide)
  · intro present
    obtain ⟨bounded, _⟩ := offsetClause_present writes.offset (mem_present.mp present)
    have limited := writes.limit
    rw [limitClause_of_bounded bounded] at limited
    obtain ⟨text, -, same⟩ := Except.map_ok_iff.mp limited
    rw [mem_present, pageClause, ← same]
    simp

/-- The clauses of a count statement are those of a page statement, but for what is selected, and
neither an order nor an offset is among them. -/
theorem count_arranged {sql : String} (written : q.countSql = .ok sql) :
    ∃ filter limit, q.whereClause = .ok filter ∧ q.limitClause = .ok limit ∧
      Arranged (q.countClause filter limit) sql ∧
      .order ∉ present (q.countClause filter limit) ∧
      .offset ∉ present (q.countClause filter limit) := by
  obtain ⟨filter, limit, filtered, limited, composed⟩ := (countSql_eq_ok_iff q sql).mp written
  have noOrder : .order ∉ present (q.countClause filter limit) := by
    simp [mem_present, countClause]
  have noOffset : .offset ∉ present (q.countClause filter limit) := by
    simp [mem_present, countClause]
  refine ⟨filter, limit, filtered, limited,
    ⟨composed, List.filter_sublist, ?_, fun h => absurd h noOffset⟩, noOrder, noOffset⟩
  intro c present
  rw [mem_present] at present
  cases c with
  | select => exact .of_word "SELECT " "COUNT(*) AS numItems" (by decide)
  | source => exact .of_word "FROM " _ (by decide)
  | joins => exact q.joinClause_opens present
  | filter => exact whereClause_opens filtered present
  | order => exact absurd rfl present
  | limit => exact q.limitClause_opens limited present
  | offset => exact absurd rfl present

end Query
end PagedQuery
