import PagedQuery.Sql.Clause

/-!
Statements: the one that fetches a page and the one that counts all rows of a query.
-/
namespace PagedQuery.Query

/-- The clauses that are present, with a space between each and the next. -/
def sentence (clauses : List String) : String := joinWith " " (clauses.filter fun c => !c.isEmpty)

variable [Runtime]

def pageSql (d : Dialect) (q : Query) : Except Fault String := do
  let filter ← q.whereClause
  let limit ← q.limitClause
  let offset ← q.offsetClause
  pure (sentence
    [q.selectClause, q.fromClause, q.joinClause, filter, q.orderClause d, limit, offset])

/-- Counts what the filters let through. It has no order and no offset, so it is the same for
every page. -/
def countSql (q : Query) : Except Fault String := do
  let filter ← q.whereClause
  let limit ← q.limitClause
  pure (sentence [countProjection, q.fromClause, q.joinClause, filter, limit])

end PagedQuery.Query
