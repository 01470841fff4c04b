import Mathlib.Data.List.Chain
import PagedQuery.Text.Blank
import PagedQuery.Proofs.Sql.Clauses
import PagedQuery.Proofs.Sql.Rendering
import PagedQuery.Proofs.Sql.Window

/-! The white space of statements. If no name and no string of a query holds any, then a statement
is words with single spaces between them. -/
namespace PagedQuery

open Sql Decimal

def Solid (s : String) : Prop := ∀ c ∈ s.toList, Text.isSpace c = false

instance (s : String) : Decidable (Solid s) := List.decidableBAll _ s.toList

structure SingleSpaced (s : String) : Prop where
  nonempty : s.toList ≠ []
  blanks : ∀ c ∈ s.toList, Text.isSpace c = true → c = ' '
  starts : s.toList.head? ≠ some ' '
  ends : s.toList.getLast? ≠ some ' '
  apart : s.toList.IsChain fun a b => ¬ (a = ' ' ∧ b = ' ')

instance (s : String) : Decidable (SingleSpaced s) :=
  -- by the members of the text, not by all characters that there are
  letI : Decidable (∀ c ∈ s.toList, Text.isSpace c = true → c = ' ') :=
    List.decidableBAll _ s.toList
  decidable_of_iff (s.toList ≠ [] ∧ (∀ c ∈ s.toList, Text.isSpace c = true → c = ' ') ∧
      s.toList.head? ≠ some ' ' ∧ s.toList.getLast? ≠ some ' ' ∧
      s.toList.IsChain fun a b => ¬ (a = ' ' ∧ b = ' '))
    ⟨fun ⟨n, b, s, e, a⟩ => ⟨n, b, s, e, a⟩, fun ⟨n, b, s, e, a⟩ => ⟨n, b, s, e, a⟩⟩

section Words

variable {s t : String}

theorem Solid.append (hs : Solid s) (ht : Solid t) : Solid (s ++ t) := by
  rw [Solid, String.toList_append]
  exact List.forall_mem_append.mpr ⟨hs, ht⟩

theorem Solid.not_space (h : Solid s) {c : Char} (member : c ∈ s.toList) : c ≠ ' ' := by
  rintro rfl
  cases h ' ' member

theorem Solid.joinWith {sep : String} (between : Solid sep) {texts : List String}
    (each : ∀ s ∈ texts, Solid s) : Solid (joinWith sep texts) := by
  induction texts with
  | nil => exact fun c member => nomatch member
  | cons s rest ih =>
    obtain ⟨head, more⟩ := List.forall_mem_cons.mp each
    cases rest with
    | nil => exact head
    | cons t rest => exact (head.append between).append (ih more)

theorem isSpace_of_isMark {c : Char} (mark : isMark c = true) : Text.isSpace c = false := by
  rcases isMark_iff.mp mark with digit | other
  · obtain ⟨low, high⟩ := digit_range digit
    simp only [Text.isSpace, Text.isBlank, Bool.or_eq_false_iff, Bool.and_eq_false_iff,
      decide_eq_false_iff_not, beq_eq_false_iff_ne]
    omega
  · simp only [List.mem_cons, List.not_mem_nil, or_false] at other
    rcases other with rfl | rfl | rfl | rfl <;> rfl

theorem solid_of_isNumeral (h : IsNumeral s.toList) : Solid s :=
  fun c member => isSpace_of_isMark (h.marks c member)

theorem spaces_apart_of_solid {cs : List Char} (solid : ∀ c ∈ cs, c ≠ ' ') :
    cs.IsChain fun a b => ¬ (a = ' ' ∧ b = ' ') := by
  induction cs with
  | nil => exact .nil
  | cons c rest ih =>
    obtain ⟨head, more⟩ := List.forall_mem_cons.mp solid
    exact List.isChain_cons.mpr ⟨fun _ _ both => head both.1, ih more⟩

theorem SingleSpaced.word (some : s ≠ "") (solid : Solid s) : SingleSpaced s := by
  refine ⟨by simpa using some, ?_, ?_, ?_, ?_⟩
  · intro c member space
    cases space.symm.trans (solid c member)
  · exact fun first => solid.not_space (List.mem_of_head? first) rfl
  · exact fun last => solid.not_space (List.mem_of_getLast? last) rfl
  · exact spaces_apart_of_solid fun c member => solid.not_space member

theorem SingleSpaced.glue (hs : SingleSpaced s) (solid : Solid t) : SingleSpaced (s ++ t) := by
  constructor
  · simp [hs.nonempty]
  · rw [String.toList_append]
    refine List.forall_mem_append.mpr ⟨hs.blanks, fun c member space => ?_⟩
    cases space.symm.trans (solid c member)
  · rw [String.toList_append, List.head?_append_of_ne_nil _ hs.nonempty]
    exact hs.starts
  · rw [String.toList_append, List.getLast?_append]
    intro last
    cases atEnd : t.toList.getLast? with
    | none => exact hs.ends (by simpa [atEnd] using last)
    | some c =>
      rw [atEnd] at last
      exact solid.not_space (List.mem_of_getLast? atEnd) (by simpa using last)
  · rw [String.toList_append]
    refine hs.apart.append (spaces_apart_of_solid fun c member => solid.not_space member) ?_
    intro a last b first both
    exact solid.not_space (List.mem_of_head? first) both.2

theorem SingleSpaced.space (hs : SingleSpaced s) (ht : SingleSpaced t) :
    SingleSpaced (s ++ " " ++ t) := by
  have chars : (s ++ " " ++ t).toList = s.toList ++ ([' '] ++ t.toList) := by simp
  constructor
  · simp
  · rw [chars]
    refine List.forall_mem_append.mpr ⟨hs.blanks, List.forall_mem_append.mpr ⟨?_, ht.blanks⟩⟩
    exact fun c member _ => List.mem_singleton.mp member
  · rw [chars, List.head?_append_of_ne_nil _ hs.nonempty]
    exact hs.starts
  · rw [chars, List.getLast?_append_of_ne_nil _ (by simp),
      List.getLast?_append_of_ne_nil _ ht.nonempty]
    exact ht.ends
  · rw [chars]
    refine hs.apart.append (List.IsChain.append (.singleton ' ') ht.apart ?_) ?_
    · intro a _ b first both
      exact ht.starts (both.2 ▸ first)
    · intro a last b _ both
      exact hs.ends (both.1 ▸ last)

theorem SingleSpaced.behind (opening : String) (words : SingleSpaced s)
    (same : opening = s ++ " ") (ht : SingleSpaced t) : SingleSpaced (opening ++ t) :=
  same ▸ words.space ht

/-- Texts with a separator that keeps two of them single-spaced. -/
theorem SingleSpaced.joinWith {sep : String}
    (between : ∀ s t, SingleSpaced s → SingleSpaced t → SingleSpaced (s ++ sep ++ t))
    {texts : List String} (some : texts ≠ []) (each : ∀ s ∈ texts, SingleSpaced s) :
    SingleSpaced (joinWith sep texts) := by
  induction texts with
  | nil => exact absurd rfl some
  | cons s rest ih =>
    obtain ⟨head, more⟩ := List.forall_mem_cons.mp each
    cases rest with
    | nil => exact head
    | cons t rest => exact between s _ head (ih (by simp) more)

end Words

structure Query.Unspaced (q : Query) : Prop where
  tablePrefix : Solid q.tablePrefix
  table : Solid q.table
  joins : ∀ j ∈ q.joins, Solid j.table ∧ ∀ p ∈ j.on, Solid p.1 ∧ Solid p.2
  columns : ∀ p ∈ q.predicates, p.column ≠ "" ∧ Solid p.column
  strings : ∀ p ∈ q.predicates, ∀ s, p.value = .string s → Solid s
  items : ∀ p ∈ q.predicates, ∀ items, p.value = .list items → ∀ s, .string s ∈ items → Solid s
  order : ∀ terms, q.order = some (.by terms) → ∀ t ∈ terms, t.column ≠ "" ∧ Solid t.column

namespace Query

variable {q : Query}

theorem operator_singleSpaced (operator : Operator) : SingleSpaced (Keyword.text operator) := by
  cases operator <;> decide

theorem qualifiedTable_singleSpaced (normal : Normal q) (unspaced : q.Unspaced) :
    SingleSpaced q.qualifiedTable := by
  refine .word ?_ (unspaced.tablePrefix.append unspaced.table)
  simp [qualifiedTable, normal.table]

theorem selectClause_singleSpaced (normal : Normal q) (unspaced : q.Unspaced) :
    SingleSpaced q.selectClause := by
  cases joined : q.isJoined with
  | true =>
    have id : SingleSpaced (q.qualifiedTable ++ ".id") :=
      (qualifiedTable_singleSpaced normal unspaced).glue (by decide)
    have others : SingleSpaced ("AS " ++ rowIdAlias ++ ", *") := by decide
    have columns := SingleSpaced.behind "SELECT " (by decide : SingleSpaced "SELECT") rfl
      (id.space others)
    have renamed : ".id AS " ++ rowIdAlias ++ ", *" = ".id" ++ " " ++
        ("AS " ++ rowIdAlias ++ ", *") := rfl
    rw [selectClause_joined joined, renamed]
    simpa only [String.append_assoc] using columns
  | false =>
    rw [selectClause_single joined]
    decide

theorem fromClause_singleSpaced (normal : Normal q) (unspaced : q.Unspaced) :
    SingleSpaced q.fromClause :=
  .behind "FROM " (by decide : SingleSpaced "FROM") rfl
    (qualifiedTable_singleSpaced normal unspaced)

theorem joinLine_singleSpaced (normal : Normal q) (unspaced : q.Unspaced) {j : Join}
    (member : j ∈ q.joins) : ∀ line ∈ q.joinLines j, SingleSpaced line := by
  obtain ⟨name, on⟩ := unspaced.joins j member
  have joined : SingleSpaced (q.tablePrefix ++ j.table) := by
    refine .word ?_ (unspaced.tablePrefix.append name)
    simp [normal.joins j member]
  have dot : Solid "." := by decide
  refine List.forall_mem_cons.mpr ⟨?_, ?_⟩
  · have kind : SingleSpaced (Keyword.text j.kind) := by
      cases j.kind <;> decide
    exact kind.space joined
  · intro line inside
    obtain ⟨p, pair, rfl⟩ := List.mem_map.mp inside
    obtain ⟨key, value⟩ := on p pair
    have left := ((qualifiedTable_singleSpaced normal unspaced).glue dot).glue key
    have right := (joined.glue dot).glue value
    have line := SingleSpaced.behind "ON " (by decide : SingleSpaced "ON") rfl
      ((left.space (operator_singleSpaced j.operator)).space right)
    simpa only [String.append_assoc] using line

theorem joinClause_singleSpaced (normal : Normal q) (unspaced : q.Unspaced)
    (present : q.joinClause ≠ "") : SingleSpaced q.joinClause := by
  refine SingleSpaced.joinWith (fun s t hs ht => hs.space ht) ?_ ?_
  · intro none
    rw [joinClause, none] at present
    exact present rfl
  · intro line inside
    obtain ⟨j, member, inside⟩ := List.mem_flatMap.mp inside
    exact joinLine_singleSpaced normal unspaced member line inside

theorem numeral_singleSpaced {text : String} (numeral : IsNumeral text.toList) :
    SingleSpaced text :=
  .word (fun none => numeral.ne_nil (by simp [none])) (solid_of_isNumeral numeral)

theorem items_solid {items : List Value} {texts : List String}
    (each : List.Forall₂ ItemText items texts) (strings : ∀ s, .string s ∈ items → Solid s) :
    ∀ text ∈ texts, Solid text := by
  induction each with
  | nil => simp
  | cons head _ ih =>
    have more := ih fun s inside => strings s (List.mem_cons_of_mem _ inside)
    refine List.forall_mem_cons.mpr ⟨?_, more⟩
    have quote : Solid "\"" := by decide
    cases head with
    | string s => exact (quote.append (strings s List.mem_cons_self)).append quote
    | number h => exact solid_of_isNumeral h.isNumeral

theorem orderClause_singleSpaced (unspaced : q.Unspaced) {d : Dialect}
    (present : q.orderClause d ≠ "") : SingleSpaced (q.orderClause d) := by
  have opening : SingleSpaced "ORDER BY" := by decide
  rcases order : q.order with _ | _ | _ | ⟨term, rest⟩ <;>
    simp only [orderClause, order, ne_eq, not_true_eq_false] at present ⊢
  · refine .behind "ORDER BY " opening rfl ?_
    cases d.target <;> decide
  · refine .behind "ORDER BY " opening rfl (.joinWith ?_ (by simp) ?_)
    · intro s t hs ht
      -- the comma lengthens the last word of the term before it
      have comma : Solid "," := by decide
      have separator : ", " = "," ++ " " := rfl
      rw [separator]
      simpa only [String.append_assoc] using (hs.glue comma).space ht
    · intro text inside
      obtain ⟨t, member, rfl⟩ := List.mem_map.mp inside
      obtain ⟨some, solid⟩ := unspaced.order _ order t member
      have collation : SingleSpaced "COLLATE NOCASE" := by decide
      have direction : SingleSpaced (Keyword.text t.direction) := by
        cases t.direction <;> decide
      have term := ((SingleSpaced.word some solid).space collation).space direction
      have between : " COLLATE NOCASE " = " " ++ "COLLATE NOCASE" ++ " " := rfl
      rw [termText, between]
      simpa only [String.append_assoc] using term

theorem composed_singleSpaced {text : Clause → String} {sql : String} (arranged : Arranged text sql)
    (selects : text .select ≠ "") (each : ∀ c, text c ≠ "" → SingleSpaced (text c)) :
    SingleSpaced sql := by
  rw [arranged.composed]
  refine SingleSpaced.joinWith (fun s t hs ht => hs.space ht) ?_ ?_
  · rw [ne_eq, List.map_eq_nil_iff]
    exact List.ne_nil_of_mem (Clause.mem_present.mpr selects)
  · intro s member
    obtain ⟨c, present, rfl⟩ := List.mem_map.mp member
    exact each c (Clause.mem_present.mp present)

theorem offsetClause_singleSpaced (normal : Normal q) {offset : String}
    (written : q.offsetClause = .ok offset) (present : offset ≠ "") : SingleSpaced offset := by
  obtain ⟨_, skipped, text, computed, numbered, rfl⟩ := offsetClause_present written present
  obtain ⟨page, _, onPage⟩ := normal.page
  rw [Query.offset, onPage] at computed
  cases computed
  obtain ⟨-, rfl⟩ := Number.wholeText_ok_iff.mp numbered
  exact .behind "OFFSET " (by decide : SingleSpaced "OFFSET") rfl
    (numeral_singleSpaced (Number.intText_isNumeral _))

theorem limitClause_singleSpaced {limit : String} (written : q.limitClause = .ok limit)
    (present : limit ≠ "") : SingleSpaced limit := by
  rw [limitClause_present written present]
  exact .behind "LIMIT " (by decide : SingleSpaced "LIMIT") rfl
    (numeral_singleSpaced (Number.intText_isNumeral _))

section Written

variable [Runtime]

theorem literal_singleSpaced (normal : Normal q) (unspaced : q.Unspaced) {p : Predicate}
    (member : p ∈ q.predicates) {text : String} (done : literal p.value = .ok text) :
    SingleSpaced text := by
  have written := literal_literalText (comparand_of_mem normal member) done
  generalize value : p.value = v at written
  cases written with
  | string s =>
    have quote : SingleSpaced "'" := by decide
    exact (quote.glue (unspaced.strings p member s value)).glue (by decide)
  | number h => exact numeral_singleSpaced h.isNumeral
  | list each =>
    have solid := items_solid each (unspaced.items p member _ value)
    have bracket : SingleSpaced "(" := by decide
    exact (bracket.glue (.joinWith (by decide) solid)).glue (by decide)

theorem predicateText_singleSpaced (normal : Normal q) (unspaced : q.Unspaced) {p : Predicate}
    (member : p ∈ q.predicates) {text : String} (done : q.predicateText p = .ok text) :
    SingleSpaced text := by
  obtain ⟨some, solid⟩ := unspaced.columns p member
  have column : SingleSpaced (q.columnText p.column) := by
    unfold columnText
    split
    · exact .word (by simp [some]) (unspaced.tablePrefix.append solid)
    · exact .word some solid
  rw [predicateText_eq] at done
  obtain ⟨value, written, rfl⟩ := Except.map_ok_iff.mp done
  exact (column.space (operator_singleSpaced p.operator)).space
    (literal_singleSpaced normal unspaced member written)

theorem whereClause_singleSpaced (normal : Normal q) (unspaced : q.Unspaced) {filter : String}
    (written : q.whereClause = .ok filter) (present : filter ≠ "") : SingleSpaced filter := by
  have compares : q.predicates ≠ [] := by
    intro none
    cases (whereClause_absent none).symm.trans written
    exact present rfl
  rw [whereClause_present compares, conditions] at written
  obtain ⟨_, joined, rfl⟩ := Except.map_ok_iff.mp written
  obtain ⟨texts, each, rfl⟩ := Except.map_ok_iff.mp joined
  have related := Except.mapM_ok_iff.mp each
  refine .behind "WHERE " (by decide : SingleSpaced "WHERE") rfl (.joinWith ?_ ?_ ?_)
  · intro s t hs ht
    have connective : SingleSpaced (Keyword.text q.connective) := by
      cases q.connective <;> decide
    rw [← q.connective.between_eq]
    simpa only [String.append_assoc] using (hs.space connective).space ht
  · rintro rfl
    exact compares (List.forall₂_nil_right_iff.mp related)
  · have spaced := ((List.forall₂_and_left _ _).mpr ⟨fun _ member => member, related⟩).flip.imp
      fun text p done => And.intro (predicateText_singleSpaced normal unspaced done.1 done.2) done
    exact ((List.forall₂_and_left _ _).mp spaced).1

/-- Without white space in its names and strings, the statements of an accepted query are words
with single spaces between them. The clauses that are present stand in order, rows are skipped only
where they are limited, and a count has neither an order nor an offset. -/
theorem statements_single_spaced {v : Value} {q : Query} (accepted : normalize v = .ok q)
    (unspaced : q.Unspaced) (d : Dialect) :
    (∀ sql, q.pageSql d = .ok sql → SingleSpaced sql ∧
      ∃ filter limit offset, q.Writes filter limit offset ∧
        Arranged (q.pageClause d filter limit offset) sql) ∧
    ∀ sql, q.countSql = .ok sql → SingleSpaced sql ∧
      ∃ filter limit, q.whereClause = .ok filter ∧ q.limitClause = .ok limit ∧
        Arranged (q.countClause filter limit) sql ∧
        .order ∉ Clause.present (q.countClause filter limit) ∧
        .offset ∉ Clause.present (q.countClause filter limit) := by
  have normal := normalize_normal accepted
  constructor
  · intro sql written
    obtain ⟨filter, limit, offset, writes, arranged⟩ := page_arranged written
    have selects : q.selectClause ≠ "" := by simpa using q.selectClause_present
    refine ⟨composed_singleSpaced arranged selects fun c present => ?_, filter, limit, offset,
      writes, arranged⟩
    cases c with
    | select => exact selectClause_singleSpaced normal unspaced
    | source => exact fromClause_singleSpaced normal unspaced
    | joins => exact joinClause_singleSpaced normal unspaced present
    | filter => exact whereClause_singleSpaced normal unspaced writes.filter present
    | order => exact orderClause_singleSpaced unspaced present
    | limit => exact limitClause_singleSpaced writes.limit present
    | offset => exact offsetClause_singleSpaced normal writes.offset present
  · intro sql written
    obtain ⟨filter, limit, filtered, limited, arranged, bare⟩ := count_arranged written
    have projection : SingleSpaced countProjection := by decide
    have selects : countProjection ≠ "" := by decide
    refine ⟨composed_singleSpaced arranged selects fun c present => ?_, filter, limit, filtered,
      limited, arranged, bare⟩
    cases c with
    | select => exact projection
    | source => exact fromClause_singleSpaced normal unspaced
    | joins => exact joinClause_singleSpaced normal unspaced present
    | filter => exact whereClause_singleSpaced normal unspaced filtered present
    | order => exact absurd rfl present
    | limit => exact limitClause_singleSpaced limited present
    | offset => exact absurd rfl present

end Written

def secondTracks : Value := .object [
  ("table", .string "tracks"),
  ("join", .object [("table", .string "artists"), ("on", .object [("artist_id", .string "id")])]),
  ("columns", .object [
    ("artists.name", .string "Orbital"),
    ("year", .list [.int 1992, .int 1993])]),
  ("orderBy", .object [("name", .string "asc"), ("year", .string "desc")]),
  ("itemsPerPage", .int 10),
  ("page", .int 2)]

theorem secondTracks_unspaced [Runtime] {q : Query} (accepted : normalize secondTracks = .ok q) :
    q.Unspaced := by
  cases accepted
  have predicates : ∀ P : Predicate → Prop, P ⟨"artists.name", .equal, .string "Orbital"⟩ →
      P ⟨"year", .equal, .list [.int 1992, .int 1993]⟩ → ∀ p ∈ _, P p :=
    fun P first second => List.forall_mem_cons.mpr ⟨first, List.forall_mem_singleton.mpr second⟩
  refine ⟨by decide, by decide, by decide, by decide, ?_, ?_, ?_⟩
  · refine predicates _ ?_ ?_
    · rintro s ⟨⟩
      decide
    · rintro s ⟨⟩
  · refine predicates _ ?_ ?_
    · rintro items ⟨⟩
    · rintro items ⟨⟩ s member
      simp at member
  · rintro terms ⟨⟩
    decide

open Runtime.Usual in
theorem second_tracks_single_spaced :
    ∃ q sql counting, normalize secondTracks = .ok q ∧ q.Unspaced ∧
      q.pageSql .default = .ok sql ∧ q.countSql = .ok counting ∧
      (SingleSpaced sql ∧ ∃ filter limit offset, q.Writes filter limit offset ∧
        Arranged (q.pageClause .default filter limit offset) sql) ∧
      SingleSpaced counting := by
  have unspaced := secondTracks_unspaced rfl
  obtain ⟨pages, counts⟩ := statements_single_spaced (v := secondTracks) rfl unspaced .default
  exact ⟨_, _, _, rfl, unspaced, rfl, rfl, pages _ rfl, (counts _ rfl).1⟩

end Query

end PagedQuery
