import PagedQuery.Proofs.Sql.Filtering
import PagedQuery.Proofs.Sql.Window

/-! The count statement beside the page statement. Both are written clause by clause, and on the
first page without an order they differ in nothing but what they select. -/
namespace PagedQuery.Query

open Sql

theorem sentence_eq_append {c : String} (present : c.isEmpty = false) (rest : List String) :
    sentence (c :: rest) = c ++ String.ofList (trail rest) := by
  rw [← String.toList_inj, sentence_toList present, String.toList_append, String.toList_ofList]

theorem trail_absent (cs ds : List String) : trail (cs ++ "" :: ds) = trail (cs ++ ds) := by
  rw [trail_append, trail_append]
  rfl

theorem orderClause_dialect {q : Query} (notRandom : q.order ≠ some .random) (d d' : Dialect) :
    q.orderClause d = q.orderClause d' := by
  unfold orderClause
  split
  · rfl
  · exact absurd ‹_› notRandom
  · rfl
  · rfl

variable [Runtime]

def sourceText (q : Query) : Except Fault String := do
  let filter ← q.whereClause
  let limit ← q.limitClause
  pure (String.ofList (trail [q.fromClause, q.joinClause, filter, limit]))

theorem countSql_eq_map (q : Query) :
    q.countSql = q.sourceText.map (countProjection ++ ·) := by
  rw [countSql, sourceText]
  cases q.whereClause with
  | error f => rfl
  | ok filter =>
    cases q.limitClause with
    | error f => rfl
    | ok limit => exact congrArg Except.ok (sentence_eq_append (by decide) _)

theorem pageSql_unordered_first {q : Query} (unordered : q.order = none)
    (first : q.page = .whole 1) (d : Dialect) :
    q.pageSql d = q.sourceText.map (q.selectClause ++ ·) := by
  have noOrder : q.orderClause d = "" := by
    rw [orderClause, unordered]
  have sources (filter limit : String) :
      trail [q.fromClause, q.joinClause, filter, "", limit, ""] =
        trail [q.fromClause, q.joinClause, filter, limit] :=
    (trail_absent [q.fromClause, q.joinClause, filter] [limit, ""]).trans
      (trail_absent [q.fromClause, q.joinClause, filter, limit] [])
  rw [pageSql, sourceText, offsetClause_first first, noOrder]
  cases q.whereClause with
  | error f => rfl
  | ok filter =>
    cases q.limitClause with
    | error f => rfl
    | ok limit =>
      refine congrArg Except.ok ?_
      rw [sentence_eq_append q.selectClause_present, sources]

/-- The texts that a query needs to be counted: of the values that it compares with, and of the
page size. -/
def Countable (q : Query) : Prop :=
  (∀ p ∈ q.predicates, p.value.HasLiteral) ∧ (q.pageSize = -1 ∨ Number.Short q.pageSize)

theorem sourceText_exists_iff {q : Query} : (∃ text, q.sourceText = .ok text) ↔ q.Countable := by
  rw [Countable, ← whereClause_exists_iff, ← limitClause_exists_iff, sourceText]
  simp only [Except.bind_ok_iff]
  constructor
  · rintro ⟨_, filter, filtered, limit, limited, _⟩
    exact ⟨⟨filter, filtered⟩, limit, limited⟩
  · rintro ⟨⟨filter, filtered⟩, limit, limited⟩
    exact ⟨_, filter, filtered, limit, limited, rfl⟩

theorem pageSql_dialect {q : Query} (notRandom : q.order ≠ some .random) (d d' : Dialect) :
    q.pageSql d = q.pageSql d' := by
  rw [pageSql, pageSql, orderClause_dialect notRandom d d']

/-- Counting asks for the rows of the first page statement without an order: after what is selected
both texts are the same, and where a value or the page size has no text, both fail alike. So neither
the page nor the order nor the mode matters to the count, and no dialect enters it; into a page
statement a dialect enters through a random order only. -/
theorem count_statement_follows_page_statement (q : Query) :
    (∃ rest : Except Fault String,
      (∀ d, { q with page := .whole 1, order := none }.pageSql d =
        rest.map (q.selectClause ++ ·)) ∧
      q.countSql = rest.map ("SELECT COUNT(*) AS numItems" ++ ·) ∧
      ((∃ text, rest = .ok text) ↔ q.Countable)) ∧
    (∀ page order mode,
      { q with page := page, order := order, mode := mode }.countSql = q.countSql) ∧
    ∀ d d', q.pageSql d = q.pageSql d' ∨ q.order = some .random := by
  refine ⟨⟨q.sourceText, ?_, q.countSql_eq_map, sourceText_exists_iff⟩, fun _ _ _ => rfl,
    fun d d' => ?_⟩
  · exact pageSql_unordered_first (q := { q with page := .whole 1, order := none }) rfl rfl
  · by_cases random : q.order = some .random
    · exact .inr random
    · exact .inl (pageSql_dialect random d d')

end PagedQuery.Query
