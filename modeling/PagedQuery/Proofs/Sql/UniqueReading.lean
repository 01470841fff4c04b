import PagedQuery.Proofs.Query.Reading
import PagedQuery.Proofs.Sql.ClauseReading
import PagedQuery.Proofs.Sql.Filtering
import PagedQuery.Proofs.Sql.Window

/-! Different queries never have the same page statement: a plain query is read back from its
statement clause by clause, in the order in which the clauses stand. -/
namespace PagedQuery

open Sql

def Join.view (j : Join) : JoinView := (j.kind, j.table, j.on.map fun p => (p.1, j.operator, p.2))

structure Join.Alike (a b : Join) : Prop where
  table : a.table = b.table
  kind : a.kind = b.kind
  on : a.on = b.on
  operator : a.on ≠ [] → a.operator = b.operator

theorem Join.alike_of_view {a b : Join} (same : a.view = b.view) : a.Alike b := by
  obtain ⟨kind, table, pairs⟩ : a.kind = b.kind ∧ a.table = b.table ∧
      a.on.map (fun p => (p.1, a.operator, p.2)) = b.on.map fun p => (p.1, b.operator, p.2) := by
    simpa [view] using same
  have columns : ∀ (on : List (String × String)) (op : Operator),
      (on.map fun p => (p.1, op, p.2)).map (fun v => (v.1, v.2.2)) = on := by
    intro on op
    exact List.map_map.trans (List.map_id on)
  have on : a.on = b.on := by rw [← columns a.on a.operator, pairs, columns]
  refine ⟨table, kind, on, fun some_pair => ?_⟩
  rw [on] at pairs some_pair
  cases found : b.on with
  | nil => exact absurd found some_pair
  | cons p rest =>
    rw [found, List.map_cons, List.map_cons] at pairs
    exact (Prod.mk.inj (Prod.mk.inj (List.cons.inj pairs).1).2).1

namespace Sql

theorem trail_one {c : String} (present : c.isEmpty = false) : trail [c] = ' ' :: c.toList := by
  rw [trail_present present, trail_nil, List.append_nil]

theorem trail_word {word : String} (proper : word ≠ "") (text : String) :
    trail [word ++ text] = ' ' :: (word.toList ++ text.toList) := by
  rw [trail_one (by simp [String.isEmpty_eq_false_iff, proper]), String.toList_append]

theorem trail_lines (lines : List String) (present : ∀ s ∈ lines, s ≠ "") :
    trail [joinWith " " lines] = lines.flatMap fun s => ' ' :: s.toList := by
  cases lines with
  | nil => rfl
  | cons s rest =>
    have nonempty : (joinWith " " (s :: rest)).isEmpty = false := by
      rw [String.isEmpty_eq_false_iff]
      intro empty
      have chars := congrArg String.toList empty
      rw [joinWith_toList] at chars
      have first := (List.append_eq_nil_iff.mp chars).1
      exact present s List.mem_cons_self (String.toList_eq_nil_iff.mp first)
    rw [trail_one nonempty, joinWith_toList]
    rfl

end Sql

namespace Query

variable (q : Query)

theorem trail_fromClause :
    trail [q.fromClause] = " FROM ".toList ++ q.qualifiedTable.toList := by
  rw [fromClause, trail_word (by decide)]
  rfl

theorem joinLines_toList (j : Join) :
    (q.joinLines j).flatMap (fun s => ' ' :: s.toList) =
      joinText q.qualifiedTable.toList q.tablePrefix.toList j.view := by
  have space : " ".toList = [' '] := rfl
  have point : ".".toList = ['.'] := rfl
  have on : " ON ".toList = ' ' :: "ON ".toList := rfl
  simp only [joinLines, joinText, Join.view, List.flatMap_cons, List.flatMap_map,
    String.toList_append, pairText, space, point, on, List.append_assoc, List.cons_append,
    List.nil_append]

theorem trail_joinClause :
    trail [q.joinClause] = (q.joins.map Join.view).flatMap
      (joinText q.qualifiedTable.toList q.tablePrefix.toList) := by
  have present : ∀ s ∈ q.joins.flatMap q.joinLines, s ≠ "" := by
    intro s member
    obtain ⟨j, _, line⟩ := List.mem_flatMap.mp member
    rcases List.mem_cons.mp line with rfl | pair
    · cases j.kind <;> simp [Keyword.text]
    · obtain ⟨p, _, rfl⟩ := List.mem_map.mp pair
      simp
  rw [joinClause, trail_lines _ present, List.flatMap_assoc, List.flatMap_map]
  simp only [joinLines_toList]

def whereView : Option WhereView :=
  match q.predicates with
  | [] => none
  | p :: ps => some (p, ps.map fun b => (q.connective, b))

theorem predicateText_plain [Runtime] {p : Predicate} (plain : PlainValue p.value) {text : String}
    (written : q.predicateText p = .ok text) :
    text = String.ofList (Sql.predicateText q.columnText p) := by
  rw [Query.predicateText_eq] at written
  obtain ⟨value, rendered, rfl⟩ := Except.map_ok_iff.mp written
  rw [← String.toList_inj, literal_plain plain rendered]
  simp [Sql.predicateText]

theorem trail_whereClause [Runtime] (plain : q.Plain) {filter : String}
    (written : q.whereClause = .ok filter) :
    trail [filter] = q.whereView.elim [] (whereText q.columnText) := by
  have values := plain.predicates
  unfold whereView
  cases found : q.predicates with
  | nil =>
    cases (whereClause_absent found).symm.trans written
    rfl
  | cons p ps =>
    have front : " WHERE ".toList = ' ' :: "WHERE ".toList := rfl
    have space : " ".toList = [' '] := rfl
    rw [whereClause, if_neg (by simp [found])] at written
    obtain ⟨texts, compared, out⟩ := Except.bind_ok_iff.mp written
    have plainTexts := Except.map_eq_of_mapM compared fun p member _ done =>
      q.predicateText_plain (values p member).2 done
    cases out
    rw [trail_word (by decide), plainTexts, found, joinWith_map_toList]
    simp only [Option.elim_some, whereText_some, front, String.toList_ofList, List.flatMap_map,
      connectedText, String.toList_append, space, List.append_assoc, List.cons_append,
      List.nil_append]

theorem trail_orderClause (d : Dialect) :
    trail [q.orderClause d] = q.order.elim [] (orderText d) := by
  have front : " ORDER BY ".toList = ' ' :: "ORDER BY ".toList := rfl
  unfold orderClause
  cases q.order with
  | none => rfl
  | some order =>
    cases order with
    | random =>
      simp only [Option.elim_some, orderText_random]
      rw [trail_word (by decide), front]
      rfl
    | «by» terms =>
      cases terms with
      | nil => rfl
      | cons t ts =>
        simp only [Option.elim_some, orderText_by]
        rw [trail_word (by decide), front, joinWith_map_toList]
        simp only [Query.termText, Sql.termText, String.toList_append, List.append_assoc,
          List.cons_append]

def limitView : Option Int := if q.isUnbounded then none else some q.pageSize

def offsetView (p : Int) : Option Int :=
  if q.isUnbounded ∨ p = 1 then none else some (p * q.pageSize - q.pageSize)

theorem trail_limitClause [Runtime] {limit : String} (written : q.limitClause = .ok limit) :
    trail [limit] = q.limitView.elim [] (numberClause " LIMIT ") := by
  unfold limitView
  cases bounded : q.isUnbounded with
  | true =>
    cases (limitClause_unbounded (eq_of_beq bounded)).symm.trans written
    rfl
  | false =>
    have front : " LIMIT ".toList = ' ' :: "LIMIT ".toList := rfl
    rw [limitClause_of_bounded bounded] at written
    obtain ⟨text, numbered, rfl⟩ := Except.map_ok_iff.mp written
    obtain ⟨-, rfl⟩ := Number.wholeText_ok_iff.mp numbered
    rw [trail_word (by decide)]
    simp only [Bool.false_eq_true, if_false, Option.elim_some, numberClause, front]
    rfl

variable {q}

theorem trail_offsetClause [Runtime] {p : Int} (at_p : q.page = .whole p) {offset : String}
    (written : q.offsetClause = .ok offset) :
    trail [offset] = (q.offsetView p).elim [] (numberClause " OFFSET ") := by
  have front : " OFFSET ".toList = ' ' :: "OFFSET ".toList := rfl
  rw [offsetClause_whole at_p] at written
  unfold offsetView
  split at written
  · rename_i absent
    cases written
    rw [if_pos absent]
    rfl
  · rename_i present
    rw [if_neg present]
    obtain ⟨text, numbered, rfl⟩ := Except.map_ok_iff.mp written
    obtain ⟨-, rfl⟩ := Number.wholeText_ok_iff.mp numbered
    rw [trail_word (by decide), Option.elim_some, numberClause, front]
    rfl

/-- What stands behind the limit, the order, the predicates, the joins and the table. -/
def behindLimit (q : Query) (p : Int) : List Char :=
  (q.offsetView p).elim [] (numberClause " OFFSET ")

def behindOrder (q : Query) (p : Int) : List Char :=
  q.limitView.elim [] (numberClause " LIMIT ") ++ q.behindLimit p

def behindWhere (q : Query) (d : Dialect) (p : Int) : List Char :=
  q.order.elim [] (orderText d) ++ q.behindOrder p

def behindJoins (q : Query) (d : Dialect) (p : Int) : List Char :=
  q.whereView.elim [] (whereText q.columnText) ++ q.behindWhere d p

def behindTable (q : Query) (d : Dialect) (p : Int) : List Char :=
  (q.joins.map Join.view).flatMap (joinText q.qualifiedTable.toList q.tablePrefix.toList) ++
    q.behindJoins d p

theorem pageSql_clauses [Runtime] (plain : q.Plain) {p : Int} (at_p : q.page = .whole p)
    {d : Dialect} {sql : String} (written : q.pageSql d = .ok sql) :
    sql.toList = q.selectClause.toList ++ (" FROM ".toList ++ (q.qualifiedTable.toList ++
      q.behindTable d p)) := by
  obtain ⟨filter, limit, offset, filtered, limited, skipped, text⟩ := pageSql_ok written
  have clauses : trail [q.fromClause, q.joinClause, filter, q.orderClause d, limit, offset] =
      trail [q.fromClause] ++ (trail [q.joinClause] ++ (trail [filter] ++
        (trail [q.orderClause d] ++ (trail [limit] ++ trail [offset])))) := by
    simp only [← trail_append]
    rfl
  rw [text, clauses, trail_fromClause, trail_joinClause, trail_whereClause q plain filtered,
    trail_orderClause, trail_limitClause q limited, trail_offsetClause at_p skipped,
    List.append_assoc]
  rfl

namespace Plain

variable (plain : q.Plain)
include plain

theorem qualifiedTable_isWord : IsWord q.qualifiedTable := by
  constructor
  · intro empty
    have chars := congrArg String.toList empty
    rw [qualifiedTable, String.toList_append] at chars
    exact plain.table.1 (String.toList_eq_nil_iff.mp (List.append_eq_nil_iff.mp chars).2)
  · intro c member
    rw [qualifiedTable, String.toList_append] at member
    rcases List.mem_append.mp member with inPrefix | inTable
    · exact plain.tablePrefix c inPrefix
    · exact plain.table.2 c inTable

theorem joinViews_plain : ∀ v ∈ q.joins.map Join.view, PlainJoin v := by
  intro v member
  obtain ⟨j, inJoins, rfl⟩ := List.mem_map.mp member
  obtain ⟨table, on⟩ := plain.joins j inJoins
  refine ⟨trivial, table, fun p pair => ?_⟩
  obtain ⟨columns, inOn, rfl⟩ := List.mem_map.mp pair
  exact ⟨(on columns inOn).1, trivial, (on columns inOn).2⟩

theorem whereView_plain : ∀ v ∈ q.whereView, PlainWhere v := by
  intro v member
  have predicates := plain.predicates
  unfold whereView at member
  cases found : q.predicates with
  | nil => simp [found] at member
  | cons p ps =>
    rw [found] at member predicates
    cases member
    obtain ⟨first, more⟩ := List.forall_mem_cons.mp predicates
    refine ⟨⟨first.1, trivial, first.2⟩, fun v inMore => ?_⟩
    obtain ⟨b, inPs, rfl⟩ := List.mem_map.mp inMore
    exact ⟨trivial, (more b inPs).1, trivial, (more b inPs).2⟩

theorem readable_columnText :
    Readable IsColumn (fun c => (q.columnText c).toList) (Ends isNameChar) := by
  refine (readable_span isNameChar).comap (f := q.columnText) ?_ (fun _ => rfl) ?_
  · intro c column x member
    unfold columnText at member
    split at member
    · rw [String.toList_append] at member
      rcases List.mem_append.mp member with inPrefix | inColumn
      · simp [isNameChar, plain.tablePrefix x inPrefix]
      · exact column.2 x inColumn
    · exact column.2 x member
  · intro a b same
    -- a qualified column gets the prefix, but no column becomes or stops being qualified by it
    unfold columnText at same
    split at same <;> split at same
    · have chars := congrArg String.toList same
      rw [String.toList_append, String.toList_append] at chars
      exact String.toList_inj.mp (List.append_cancel_left chars)
    · rename_i point noPoint
      rw [← same, String.toList_append] at noPoint
      simp at point noPoint
      exact absurd point noPoint.2
    · rename_i noPoint point
      rw [same, String.toList_append] at noPoint
      simp at point noPoint
      exact absurd point noPoint.2
    · exact same

theorem order_plain (proper : q.order ≠ some (.by [])) : ∀ o ∈ q.order, PlainOrder o := by
  intro o member
  cases o with
  | random => trivial
  | «by» terms =>
    refine ⟨?_, plain.terms terms member⟩
    rintro rfl
    exact proper member

end Plain

theorem behindLimit_follows (p : Int) : Follows limitWords (q.behindLimit p) := by
  have nothing : Follows [] [] := .inl rfl
  have follows := nothing.elim (o := q.offsetView p)
    fun n _ => numberClause_opens " OFFSET " n
  rwa [List.append_nil] at follows

theorem behindOrder_follows (p : Int) : Follows orderWords (q.behindOrder p) :=
  (behindLimit_follows p).elim fun n _ => numberClause_opens " LIMIT " n

theorem Plain.behindWhere_follows (plain : q.Plain) (proper : q.order ≠ some (.by []))
    (d : Dialect) (p : Int) : Follows whereWords (q.behindWhere d p) :=
  (behindOrder_follows p).elim fun o member =>
    orderText_opens d o (plain.order_plain proper o member)

theorem Plain.behindJoins_follows (plain : q.Plain) (proper : q.order ≠ some (.by []))
    (d : Dialect) (p : Int) : Follows joinWords (q.behindJoins d p) :=
  (plain.behindWhere_follows proper d p).elim fun v _ => whereText_opens q.columnText v

theorem Plain.behindTable_ends (plain : q.Plain) (proper : q.order ≠ some (.by []))
    (d : Dialect) (p : Int) : Ends isWordChar (q.behindTable d p) :=
  ((plain.behindJoins_follows proper d p).flatMap fun v _ => joinText_opens _ _ v).ends
    (by decide)

/-- The first clause tells a query with joins, which selects an id of the table by name. -/
theorem selectClause_unique {s t : Query} (plainS : s.Plain) (plainT : t.Plain) {k l : List Char}
    (endsK : Ends isWordChar k) (endsL : Ends isWordChar l)
    (same : s.selectClause.toList ++ (" FROM ".toList ++ (s.qualifiedTable.toList ++ k)) =
      t.selectClause.toList ++ (" FROM ".toList ++ (t.qualifiedTable.toList ++ l))) :
    s.qualifiedTable = t.qualifiedTable ∧ k = l := by
  have wordS := plainS.qualifiedTable_isWord
  have wordT := plainT.qualifiedTable_isWord
  have star : "SELECT *".toList = "SELECT ".toList ++ ['*'] := rfl
  have id : (".id AS " ++ rowIdAlias ++ ", *").toList =
      '.' :: "id AS _primaryTableRowId, *".toList := rfl
  have noStar : ∀ q : Query, IsWord q.qualifiedTable → ∀ m n : List Char,
      q.qualifiedTable.toList ++ ('.' :: m) ≠ '*' :: n := by
    intro q word m n written
    cases chars : q.qualifiedTable.toList with
    | nil =>
      rw [chars] at written
      exact absurd (List.cons.inj written).1 (by decide)
    | cons c rest =>
      rw [chars] at written
      cases (List.cons.inj written).1
      exact absurd (word.2 '*' (chars ▸ List.mem_cons_self)) (by decide)
  cases joinedS : s.isJoined <;> cases joinedT : t.isJoined
  · rw [selectClause_single joinedS, selectClause_single joinedT] at same
    exact readable_word wordS wordT endsK endsL
      (List.append_cancel_left (List.append_cancel_left same))
  · rw [selectClause_single joinedS, selectClause_joined joinedT] at same
    simp only [star, id, String.toList_append, List.append_assoc] at same
    exact absurd (List.append_cancel_left same).symm (noStar t wordT _ _)
  · rw [selectClause_joined joinedS, selectClause_single joinedT] at same
    simp only [star, id, String.toList_append, List.append_assoc] at same
    exact absurd (List.append_cancel_left same) (noStar s wordS _ _)
  · rw [selectClause_joined joinedS, selectClause_joined joinedT] at same
    simp only [id, String.toList_append, List.append_assoc] at same
    obtain ⟨table, after⟩ := readable_word wordS wordT (.of_cons rfl _) (.of_cons rfl _)
      (List.append_cancel_left same)
    rw [table] at after
    have behind := List.append_cancel_left (List.cons.inj after).2
    exact ⟨table, List.append_cancel_left (List.append_cancel_left behind)⟩

structure Alike (s t : Query) : Prop where
  table : s.table = t.table
  joins : List.Forall₂ Join.Alike s.joins t.joins
  predicates : s.predicates = t.predicates
  connective : 2 ≤ s.predicates.length → s.connective = t.connective
  order : s.order = t.order
  pageSize : s.pageSize = t.pageSize
  page : s.pageSize ≠ -1 → s.page = t.page

theorem limitView_injective {s t : Query} (same : s.limitView = t.limitView) :
    s.pageSize = t.pageSize := by
  simp only [limitView, isUnbounded, beq_iff_eq] at same
  split at same <;> split at same
  · simp [*]
  · cases same
  · cases same
  · exact Option.some.inj same

theorem offsetView_injective {s t : Query} (sized : s.pageSize = t.pageSize)
    (bounded : 1 ≤ s.pageSize) {m n : Int} (same : s.offsetView m = t.offsetView n) : m = n := by
  have limited : t.pageSize ≠ -1 := by omega
  simp only [offsetView, isUnbounded, sized, beq_iff_eq, limited, false_or] at same
  split at same <;> split at same
  · simp [*]
  · cases same
  · cases same
  · have skipped := Option.some.inj same
    have product : m * t.pageSize = n * t.pageSize := by omega
    exact Int.eq_of_mul_eq_mul_right (by omega) product

theorem whereView_injective {s t : Query} (same : s.whereView = t.whereView) :
    s.predicates = t.predicates ∧ (2 ≤ s.predicates.length → s.connective = t.connective) := by
  have behind : ∀ (ps : List Predicate) (c : Connective),
      (ps.map fun b => (c, b)).map Prod.snd = ps := by
    intro ps c
    exact List.map_map.trans (List.map_id ps)
  unfold whereView at same
  cases foundS : s.predicates with
  | nil =>
    cases foundT : t.predicates with
    | nil => simp
    | cons p ps => simp [foundS, foundT] at same
  | cons p ps =>
    cases foundT : t.predicates with
    | nil => simp [foundS, foundT] at same
    | cons p' ps' =>
      simp only [foundS, foundT, Option.some.injEq, Prod.mk.injEq] at same
      obtain ⟨rfl, more⟩ := same
      have rest : ps = ps' := by rw [← behind ps s.connective, more, behind]
      subst rest
      refine ⟨rfl, fun several => ?_⟩
      cases ps with
      | nil => simp at several
      | cons b bs => exact (Prod.mk.inj (List.cons.inj more).1).1

theorem alike_of_views {as bs : List Join} (same : as.map Join.view = bs.map Join.view) :
    List.Forall₂ Join.Alike as bs := by
  induction as generalizing bs with
  | nil =>
    cases bs with
    | nil => exact .nil
    | cons b bs => cases same
  | cons a as ih =>
    cases bs with
    | nil => cases same
    | cons b bs =>
      obtain ⟨first, rest⟩ := List.cons.inj same
      exact .cons (Join.alike_of_view first) (ih rest)

/-- Plain queries with one statement are alike: each clause is read back in turn. -/
theorem Plain.alike [Runtime] {s t : Query} (plainS : s.Plain) (plainT : t.Plain) (pagedS : s.Paged)
    (pagedT : t.Paged) (properS : s.order ≠ some (.by [])) (properT : t.order ≠ some (.by []))
    (samePrefix : s.tablePrefix = t.tablePrefix) {d : Dialect} {sql : String}
    (writtenS : s.pageSql d = .ok sql) (writtenT : t.pageSql d = .ok sql) : Alike s t := by
  obtain ⟨m, _, pageS⟩ := pagedS.page
  obtain ⟨n, _, pageT⟩ := pagedT.page
  have sameColumns : s.columnText = t.columnText := by
    funext column
    rw [columnText, columnText, samePrefix]
  -- each clause read leaves the equation of what stands behind it
  obtain ⟨qualified, behindTable⟩ := selectClause_unique plainS plainT
    (plainS.behindTable_ends properS d m) (plainT.behindTable_ends properT d n)
    ((pageSql_clauses plainS pageS writtenS).symm.trans (pageSql_clauses plainT pageT writtenT))
  rw [Query.behindTable, Query.behindTable, qualified, samePrefix] at behindTable
  obtain ⟨joins, behindJoins⟩ := readable_joins _ _ plainS.joinViews_plain plainT.joinViews_plain
    (plainS.behindJoins_follows properS d m) (plainT.behindJoins_follows properT d n) behindTable
  rw [Query.behindJoins, Query.behindJoins, sameColumns] at behindJoins
  have readable_where := (readable_where plainT.readable_columnText).optional
    (fun v _ => whereText_opens _ v) (by decide) (by decide)
  obtain ⟨predicates, behindWhere⟩ := readable_where plainS.whereView_plain plainT.whereView_plain
    (plainS.behindWhere_follows properS d m) (plainT.behindWhere_follows properT d n) behindJoins
  have readable_order := (readable_order d).optional (orderText_opens d) (by decide) (by decide)
  obtain ⟨order, behindOrder⟩ := readable_order (plainS.order_plain properS)
    (plainT.order_plain properT) (behindOrder_follows m) (behindOrder_follows n) behindWhere
  have readable_limit := readable_numberClause " LIMIT " limitWords (by decide) (by decide)
    (by decide)
  obtain ⟨limit, behindLimit⟩ := readable_limit (fun _ _ => trivial) (fun _ _ => trivial)
    (behindLimit_follows m) (behindLimit_follows n) behindOrder
  have readable_offset := readable_numberClause " OFFSET " [] (by decide) (by decide)
    (by decide)
  obtain ⟨offset, _⟩ := readable_offset (fun _ _ => trivial) (fun _ _ => trivial)
    (.inl rfl) (.inl rfl) (congrArg (· ++ []) behindLimit)
  -- from the parts that stand in the clauses to the fields of the queries
  obtain ⟨samePredicates, sameConnective⟩ := whereView_injective predicates
  have sized := limitView_injective limit
  constructor
  · have chars := congrArg String.toList qualified
    rw [qualifiedTable, qualifiedTable, samePrefix, String.toList_append, String.toList_append]
      at chars
    exact String.toList_inj.mp (List.append_cancel_left chars)
  · exact alike_of_views joins
  · exact samePredicates
  · exact sameConnective
  · exact order
  · exact sized
  · intro limited
    rw [pageS, pageT, offsetView_injective sized (pagedS.pageSize.resolve_left limited) offset]

/-- Different queries never have the same page statement: plain queries that were read from query
objects, with one prefix and one dialect, are told apart by their statements. -/
theorem normalized_statement_unique [Runtime] {v w : Value} {s t : Query}
    (readS : normalize v = .ok s) (readT : normalize w = .ok t) (plainS : s.Plain)
    (plainT : t.Plain) (samePrefix : s.tablePrefix = t.tablePrefix) {d : Dialect} {sql : String}
    (writtenS : s.pageSql d = .ok sql) (writtenT : t.pageSql d = .ok sql) : Alike s t :=
  plainS.alike plainT (normalize_paged readS) (normalize_paged readT) (normalize_proper readS)
    (normalize_proper readT) samePrefix writtenS writtenT

/-- One query object in two spellings; its text holds the words of another clause. -/
def albums (pageName : String) (size : String) : Value :=
  .object [("table", .string "albums"), (size, .int 10), ("page", .string pageName),
    ("columns", .object [("title", .string "x ORDER BY y"), ("year", .list [.int 1999])])]

def thirdAlbums : Query where
  table := "albums"
  tablePrefix := "server_"
  filters := [⟨[("title", .string "x ORDER BY y"), ("year", .list [.int 1999])], none⟩]
  connective := .and
  operator := .equal
  order := none
  joins := []
  pageSize := 10
  page := .whole 3
  mode := none

theorem thirdAlbums_plain : thirdAlbums.Plain where
  tablePrefix := List.all_eq_true.mp (by decide : "server_".toList.all isWordChar = true)
  table := isWord_of_all (by decide) (by decide)
  joins := by
    intro j none
    cases none
  predicates := by
    have found : thirdAlbums.predicates = [⟨"title", .equal, .string "x ORDER BY y"⟩,
      ⟨"year", .equal, .list [.int 1999]⟩] := rfl
    rw [found]
    intro p member
    rcases List.mem_cons.mp member with rfl | member
    · exact ⟨isColumn_of_all (by decide) (by decide),
        (by decide : '\'' ∉ "x ORDER BY y".toList)⟩
    · rw [List.mem_singleton.mp member]
      refine ⟨isColumn_of_all (by decide) (by decide), fun item inside => ?_⟩
      rw [List.mem_singleton.mp inside]
      trivial
  terms := by
    intro terms none
    cases none

open Runtime.Usual in
theorem albums_alike :
    ∃ s t sql, normalize (albums "3" "itemsPerPage") = .ok s ∧
      normalize (albums " +03 " "items_per_page") = .ok t ∧
      s.pageSql Dialect.default = .ok sql ∧ t.pageSql Dialect.default = .ok sql ∧ Alike s t :=
  ⟨thirdAlbums, thirdAlbums, _, rfl, rfl, rfl, rfl,
    normalized_statement_unique (v := albums "3" "itemsPerPage")
      (w := albums " +03 " "items_per_page") rfl rfl thirdAlbums_plain thirdAlbums_plain rfl
      (d := Dialect.default) rfl rfl⟩

def unpaired (operator : String) : Value :=
  .object [("table", .string "a"), ("join", .object [("table", .string "b"), ("on", .object []),
    ("equalityOperator", .string operator)])]

def unpairedJoin (operator : Operator) : Query where
  table := "a"
  tablePrefix := "server_"
  filters := []
  connective := .and
  operator := .equal
  order := none
  joins := [⟨"b", [], operator, .left⟩]
  pageSize := 100
  page := .whole 1
  mode := none

theorem unpairedJoin_plain (operator : Operator) : (unpairedJoin operator).Plain where
  tablePrefix := List.all_eq_true.mp (by decide : "server_".toList.all isWordChar = true)
  table := (isWord_of_all (by decide) (by decide) : IsWord "a")
  joins := by
    intro j member
    rw [List.mem_singleton.mp member]
    exact ⟨(isWord_of_all (by decide) (by decide) : IsWord "b"), by simp⟩
  predicates := by
    intro p member
    cases member
  terms := by
    intro terms none
    cases none

open Runtime.Usual in
/-- The operator of a join without pairs of columns is not in the statement. -/
theorem unpaired_joins_same_statement :
    ∃ s t sql, normalize (unpaired "=") = .ok s ∧ normalize (unpaired "LIKE") = .ok t ∧
      s.Plain ∧ t.Plain ∧ s.tablePrefix = t.tablePrefix ∧
      s.pageSql Dialect.default = .ok sql ∧ t.pageSql Dialect.default = .ok sql ∧
      s.joins ≠ t.joins :=
  ⟨unpairedJoin .equal, unpairedJoin .like, _, rfl, rfl, unpairedJoin_plain .equal,
    unpairedJoin_plain .like, rfl, rfl, rfl, by decide⟩

end Query
end PagedQuery
