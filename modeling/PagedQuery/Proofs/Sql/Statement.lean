import Mathlib.Data.List.Flatten
import PagedQuery.Proofs.Value.Writing
import PagedQuery.Sql.Statement

/-! The shape of statements: a first clause, then each further clause that is present after a
space. Statements are compared as lists of characters. -/
namespace PagedQuery

/-- What follows the first clause of a statement. -/
def Sql.trail (clauses : List String) : List Char :=
  (clauses.filter fun c => !c.isEmpty).flatMap fun c => ' ' :: c.toList

namespace Sql

theorem trail_nil : trail [] = [] := rfl

theorem trail_append (cs ds : List String) : trail (cs ++ ds) = trail cs ++ trail ds := by
  simp [trail]

theorem trail_present {c : String} (present : c.isEmpty = false) (cs : List String) :
    trail (c :: cs) = ' ' :: c.toList ++ trail cs := by
  simp [trail, present]

theorem joinWith_toList (sep s : String) (rest : List String) :
    (joinWith sep (s :: rest)).toList =
      s.toList ++ rest.flatMap fun t => sep.toList ++ t.toList := by
  induction rest generalizing s with
  | nil => simp [joinWith]
  | cons t rest ih => simp [joinWith, ih]

theorem literal_list [Runtime] (items : List Value) : literal (.list items) =
    (items.mapM listItem).map fun texts => "(" ++ joinWith "," texts ++ ")" := by
  rw [literal]
  cases items.mapM listItem <;> rfl

end Sql

namespace Query

open Sql

theorem sentence_toList {c : String} (present : c.isEmpty = false) (rest : List String) :
    (sentence (c :: rest)).toList = c.toList ++ trail rest := by
  simp only [sentence, List.filter_cons, present, Bool.not_false, if_true, joinWith_toList]
  rfl

theorem selectClause_present (q : Query) : q.selectClause.isEmpty = false := by
  unfold selectClause
  split <;> simp [String.isEmpty_eq_false_iff]

section Writing

variable [Runtime] {d : Dialect} {q : Query} {sql : String}

theorem predicateText_eq (q : Query) (p : Predicate) : q.predicateText p =
    (literal p.value).map fun value =>
      q.columnText p.column ++ " " ++ Keyword.text p.operator ++ " " ++ value := by
  rw [predicateText]
  cases literal p.value <;> rfl

theorem pageSql_ok_iff : q.pageSql d = .ok sql ↔
    ∃ filter limit offset, q.whereClause = .ok filter ∧ q.limitClause = .ok limit ∧
      q.offsetClause = .ok offset ∧ sql = sentence [q.selectClause, q.fromClause, q.joinClause,
        filter, q.orderClause d, limit, offset] := by
  simp only [pageSql, Except.bind_ok_iff]
  constructor
  · rintro ⟨filter, filtered, limit, limited, offset, skipped, out⟩
    exact ⟨filter, limit, offset, filtered, limited, skipped, (Except.ok.inj out).symm⟩
  · rintro ⟨filter, limit, offset, filtered, limited, skipped, rfl⟩
    exact ⟨filter, filtered, limit, limited, offset, skipped, rfl⟩

theorem countSql_ok_iff : q.countSql = .ok sql ↔
    ∃ filter limit, q.whereClause = .ok filter ∧ q.limitClause = .ok limit ∧
      sql = sentence [countProjection, q.fromClause, q.joinClause, filter, limit] := by
  simp only [countSql, Except.bind_ok_iff]
  constructor
  · rintro ⟨filter, filtered, limit, limited, out⟩
    exact ⟨filter, limit, filtered, limited, (Except.ok.inj out).symm⟩
  · rintro ⟨filter, limit, filtered, limited, rfl⟩
    exact ⟨filter, filtered, limit, limited, rfl⟩

theorem pageSql_exists_iff : (∃ sql, q.pageSql d = .ok sql) ↔
    (∃ filter, q.whereClause = .ok filter) ∧ (∃ limit, q.limitClause = .ok limit) ∧
      ∃ offset, q.offsetClause = .ok offset := by
  simp only [pageSql_ok_iff]
  constructor
  · rintro ⟨_, filter, limit, offset, filtered, limited, skipped, _⟩
    exact ⟨⟨filter, filtered⟩, ⟨limit, limited⟩, offset, skipped⟩
  · rintro ⟨⟨filter, filtered⟩, ⟨limit, limited⟩, offset, skipped⟩
    exact ⟨_, filter, limit, offset, filtered, limited, skipped, rfl⟩

theorem countSql_of_pageSql (written : q.pageSql d = .ok sql) :
    ∃ counting, q.countSql = .ok counting := by
  obtain ⟨filter, limit, _, filtered, limited, _⟩ := pageSql_ok_iff.mp written
  exact ⟨_, countSql_ok_iff.mpr ⟨filter, limit, filtered, limited, rfl⟩⟩

theorem pageSql_ok (written : q.pageSql d = .ok sql) :
    ∃ filter limit offset, q.whereClause = .ok filter ∧ q.limitClause = .ok limit ∧
      q.offsetClause = .ok offset ∧ sql.toList = q.selectClause.toList ++
        trail [q.fromClause, q.joinClause, filter, q.orderClause d, limit, offset] := by
  obtain ⟨filter, limit, offset, filtered, limited, skipped, rfl⟩ := pageSql_ok_iff.mp written
  exact ⟨filter, limit, offset, filtered, limited, skipped,
    sentence_toList q.selectClause_present _⟩

theorem countSql_ok (written : q.countSql = .ok sql) :
    ∃ filter limit, q.whereClause = .ok filter ∧ q.limitClause = .ok limit ∧
      sql.toList = countProjection.toList ++
        trail [q.fromClause, q.joinClause, filter, limit] := by
  obtain ⟨filter, limit, filtered, limited, rfl⟩ := countSql_ok_iff.mp written
  exact ⟨filter, limit, filtered, limited, sentence_toList (by decide) _⟩

end Writing

theorem selectClause_joined {q : Query} (joined : q.isJoined = true) :
    q.selectClause =
      "SELECT " ++ q.qualifiedTable ++ (".id AS " ++ rowIdAlias ++ ", *") := by
  simp only [selectClause, joined, if_true, String.append_assoc]

theorem selectClause_single {q : Query} (single : q.isJoined = false) :
    q.selectClause = "SELECT *" := by
  simp only [selectClause, single, Bool.false_eq_true, if_false]

/-- A page statement selects rows and a count statement counts them: no text is both. -/
theorem pageSql_ne_countSql [Runtime] {d : Dialect} {q : Query} {sql counting : String}
    (written : q.pageSql d = .ok sql) (counted : q.countSql = .ok counting) : sql ≠ counting := by
  rintro rfl
  obtain ⟨filter, limit, offset, filtered, limited, _, text⟩ := pageSql_ok written
  obtain ⟨filter', limit', filtered', limited', text'⟩ := countSql_ok counted
  cases filtered.symm.trans filtered'
  cases limited.symm.trans limited'
  rw [text'] at text
  cases joined : q.isJoined with
  | false =>
    -- the first characters after the common word differ
    rw [selectClause_single joined] at text
    have projection : countProjection.toList =
        "SELECT ".toList ++ 'C' :: "OUNT(*) AS numItems".toList := rfl
    have rows : "SELECT *".toList = "SELECT ".toList ++ ['*'] := rfl
    rw [projection, rows, List.append_assoc, List.append_assoc, List.append_cancel_left_eq] at text
    exact absurd (List.cons.inj text).1 (by decide)
  | true =>
    -- the clauses in common cancel, and the selected columns are longer than the count
    have lengths := congrArg List.length text
    have count : countProjection.toList.length = 27 := rfl
    have word : "SELECT ".toList.length = 7 := rfl
    have columns : (".id AS " ++ rowIdAlias ++ ", *").toList.length = 28 := rfl
    have fewer : (trail [q.fromClause, q.joinClause, filter, limit]).length ≤
        (trail [q.fromClause, q.joinClause, filter, q.orderClause d, limit, offset]).length := by
      have among : [q.fromClause, q.joinClause, filter, limit].Sublist
          [q.fromClause, q.joinClause, filter, q.orderClause d, limit, offset] := by simp
      exact ((among.filter _).flatMap _).length_le
    rw [selectClause_joined joined] at lengths
    simp only [String.toList_append, List.length_append] at lengths count word columns
    omega

end Query
end PagedQuery
