import PagedQuery.Proofs.Engine.Counting
import PagedQuery.Proofs.Sql.Count
import PagedQuery.Proofs.Sql.Rendering

/-! Paging: going through the pages of a query brings every row once and in order, over a link
that cuts the rows by the clauses of the statements it is sent. -/
namespace PagedQuery.Engine

section Pages

variable {α : Type}

def pageOf (size : Nat) (rows : List α) (k : Nat) : List α := (rows.drop (k * size)).take size

structure Fits (size : Nat) (rows : List α) (pages : Nat) : Prop where
  holds : rows.length ≤ pages * size
  least : ∀ k, rows.length ≤ k * size → pages ≤ k

theorem flatMap_pageOf (size : Nat) (rows : List α) (pages : Nat) :
    (List.range pages).flatMap (pageOf size rows) = rows.take (pages * size) := by
  induction pages with
  | zero => simp
  | succ pages ih =>
    rw [List.range_succ, List.flatMap_append, ih, List.flatMap_singleton, Nat.succ_mul,
      List.take_add, pageOf]

variable {size pages : Nat} {rows : List α}

theorem Fits.flatMap_pageOf (fits : Fits size rows pages) :
    (List.range pages).flatMap (pageOf size rows) = rows := by
  rw [Engine.flatMap_pageOf, List.take_of_length_le fits.holds]

theorem Fits.before_end (fits : Fits size rows pages) {k : Nat} (inside : k < pages) :
    k * size < rows.length := by
  by_contra past
  have := fits.least k (Nat.not_lt.mp past)
  omega

theorem Fits.pageOf_ne_nil (fits : Fits size rows pages) (positive : 0 < size) {k : Nat}
    (inside : k < pages) : pageOf size rows k ≠ [] := by
  have begun := fits.before_end inside
  rw [← List.length_pos_iff, pageOf, List.length_take, List.length_drop]
  omega

theorem Fits.length_pageOf (fits : Fits size rows pages) {k : Nat} (before : k + 1 < pages) :
    (pageOf size rows k).length = size := by
  have full := fits.before_end before
  rw [Nat.succ_mul] at full
  rw [pageOf, List.length_take, List.length_drop]
  omega

theorem short_of_few {n : Nat} (few : n ≤ 2 ^ 53) : Number.Short n := by
  have bound : 2 ^ 53 < 10 ^ Text.maxDigits :=
    (by decide : 2 ^ 53 < 10 ^ 16).trans (Nat.pow_lt_pow_right (by decide) (by decide))
  exact Number.short_iff_lt.mpr (few.trans_lt bound)

theorem Fits.of_nil (fits : Fits size ([] : List α) pages) : pages = 0 :=
  Nat.le_zero.mp (fits.least 0 (Nat.zero_le _))

theorem Fits.small (fits : Fits size rows pages) (few : rows.length ≤ 2 ^ 53) {k : Nat}
    (reached : k = 0 ∨ k < pages) : k * size < 10 ^ Text.maxDigits := by
  have begun : k * size ≤ rows.length := by
    rcases reached with rfl | inside
    · omega
    · exact (fits.before_end inside).le
  exact Number.short_iff_lt.mp (short_of_few (begun.trans few))

end Pages

def pageNumbers (pages : Nat) : List Int :=
  (List.range pages).map fun (k : Nat) => (k : Int) + 1

def place (pages : Nat) (n : Int) : Nat := (clamp (some pages) n - 1).toNat

theorem place_reached (pages : Nat) (n : Int) : place pages n = 0 ∨ place pages n < pages := by
  simp only [place, clamp]
  split <;> split <;> omega

theorem place_add_one (pages : Nat) (n : Int) :
    (place pages n : Int) + 1 = clamp (some pages) n := by
  have := one_le_clamp (some pages) n
  rw [place]
  omega

theorem place_inside {pages k : Nat} (inside : k = 0 ∨ k < pages) :
    place pages ((k : Int) + 1) = k := by
  simp only [place, clamp]
  split <;> split <;> omega

theorem place_past {pages : Nat} {n : Int} (past : pages < n) : place pages n = pages - 1 := by
  simp only [place, clamp]
  split <;> split <;> omega

structure Complete (size pages : Nat) (rows : List Row) (shown : List (List Row)) : Prop where
  length : shown.length = pages
  rows : shown.flatten = rows
  nonempty : ∀ page ∈ shown, page ≠ []
  full : ∀ page ∈ shown.dropLast, page.length = size

theorem Fits.complete {size pages : Nat} {rows : List Value} (fits : Fits size rows pages)
    (positive : 0 < size) :
    Complete size pages (rows.map .value)
      ((List.range pages).map fun k => (pageOf size rows k).map .value) where
  length := by simp
  rows := by
    rw [← List.flatMap_def, ← List.map_flatMap, fits.flatMap_pageOf]
  nonempty := by
    intro page member
    obtain ⟨k, inside, rfl⟩ := List.mem_map.mp member
    have some_rows := fits.pageOf_ne_nil positive (List.mem_range.mp inside)
    simpa using some_rows
  full := by
    intro page member
    rw [← List.map_dropLast, List.mem_map] at member
    obtain ⟨k, inside, rfl⟩ := member
    have before : k + 1 < pages := by
      cases pages with
      | zero => cases inside
      | succ last =>
        rw [List.range_succ, List.dropLast_concat, List.mem_range] at inside
        omega
    rw [List.length_map, fits.length_pageOf before]

section Serving

variable [Runtime] {σ : Type} (link : Link σ)

structure Serves (ready : σ → Prop) (d : Dialect) (q : Query) (rows : List Value) : Prop where
  page : ∀ p sql limit offset s, 1 ≤ p → { q with page := .whole p }.pageSql d = .ok sql →
    q.limitClause = .ok limit → { q with page := .whole p }.offsetClause = .ok offset → ready s →
    ∃ t, ready t ∧ link.send sql s = .ok (.list (Sql.window limit offset rows)) t
  count : ∀ sql s, q.countSql = .ok sql → ready s → ∃ t, ready t ∧
    link.send sql s = .ok (.list [.object [(countAlias, .int rows.length)]]) t

def tour : List Int → Act (Engine × σ) (List (List Row))
  | [] => pure []
  | n :: rest => do
    goToPage link (.whole n)
    let (e, _) ← get
    let shown ← tour rest
    pure (e.rows :: shown)

structure Shows (ready : σ → Prop) (d : Dialect) (q : Query) (size pages : Nat)
    (rows : List Value) (e : Engine) (s : σ) (k : Nat) : Prop where
  dialect : e.dialect = d
  query : e.query = { q with page := .whole (k + 1) }
  page : e.page = some (.whole (k + 1))
  counted : e.pages = some (pages : Int)
  rows : e.rows = (pageOf size rows k).map .value
  ready : ready s
  reached : k = 0 ∨ k < pages

section Steps

variable {link : Link σ} {ready : σ → Prop} {d : Dialect} {q : Query} {rows : List Value}

theorem Serves.page_run (serves : Serves link ready d q rows) (single : q.joins = []) {p : Int}
    (positive : 1 ≤ p) {sql limit offset : String}
    (statement : { q with page := .whole p }.pageSql d = .ok sql)
    (limited : q.limitClause = .ok limit)
    (written : { q with page := .whole p }.offsetClause = .ok offset) {s : σ} (live : ready s) :
    ∃ t, ready t ∧ link.page q.isJoined sql s =
      .ok ((Sql.window limit offset rows).map .value) t := by
  obtain ⟨t, kept, sent⟩ := serves.page p sql limit offset s positive statement limited written live
  have plain : q.isJoined = false := by simp [Query.isJoined, single]
  refine ⟨t, kept, ?_⟩
  rw [Link.page, Act.bind_run, sent, plain]
  rfl

variable {size pages : Nat}

/-- Whether a page can be written depends on where it begins alone. -/
theorem pageSql_of_countable (countable : q.Countable) {p : Number} {offset : String}
    (written : { q with page := p }.offsetClause = .ok offset) (d : Dialect) :
    ∃ sql, { q with page := p }.pageSql d = .ok sql :=
  Query.pageSql_exists_iff.mpr ⟨Query.whereClause_exists_iff.mpr countable.1,
    Query.limitClause_exists_iff.mpr countable.2, offset, written⟩

theorem goToPage_shows (serves : Serves link ready d q rows) (single : q.joins = [])
    (countable : q.Countable) (sized : q.pageSize = size) (few : rows.length ≤ 2 ^ 53)
    (fits : Fits size rows pages)
    {e : Engine} {s : σ} {k : Nat} (h : Shows ready d q size pages rows e s k) (n : Int) :
    ∃ e' s', goToPage link (.whole n) (e, s) = .ok () (e', s') ∧
      Shows ready d q size pages rows e' s' (place pages n) := by
  rw [goToPage_run, target_whole, isCurrent_whole _ h.page, isCurrent_whole _ h.page, h.counted,
    ← place_add_one]
  simp only [decide_eq_true_eq]
  -- nothing is sent for the page shown, which is then the page in the place of `n`
  by_cases still : n = k + 1 ∨ (place pages n : Int) + 1 = k + 1
  · have same : place pages n = k := by
      rcases still with rfl | same
      · exact place_inside h.reached
      · omega
    rw [if_pos still, same]
    exact ⟨e, s, rfl, h⟩
  · have turned : { e.query with page := Number.whole (place pages n + 1) } =
        { q with page := .whole (place pages n + 1) } := by
      rw [h.query]
    have joined : e.query.isJoined = q.isJoined := by
      rw [h.query]
      rfl
    obtain ⟨offset, written⟩ :=
      Query.offsetClause_ok (q := { q with page := .whole (place pages n + 1) }) sized rfl
        (fits.small few (place_reached pages n))
    obtain ⟨sql, statement⟩ := pageSql_of_countable countable written d
    obtain ⟨limit, limited⟩ := Query.limitClause_exists_iff.mpr countable.2
    obtain ⟨t, kept, fetched⟩ := serves.page_run single (by omega) statement limited written h.ready
    have cut := Query.window_bounded (q := { q with page := .whole (place pages n + 1) })
      sized rfl limited written rows
    rw [if_neg still, turnTo_run, turned, h.dialect, statement]
    simp only [joined, fetched]
    exact ⟨_, t, rfl, ⟨rfl, rfl, rfl, h.counted, congrArg _ cut, kept,
      place_reached pages n⟩⟩

theorem tour_shows (serves : Serves link ready d q rows) (single : q.joins = [])
    (countable : q.Countable) (sized : q.pageSize = size) (few : rows.length ≤ 2 ^ 53)
    (fits : Fits size rows pages)
    (ns : List Int) {e : Engine} {s : σ} {k : Nat} (h : Shows ready d q size pages rows e s k) :
    ∃ x, tour link ns (e, s) =
      .ok (ns.map fun n => (pageOf size rows (place pages n)).map .value) x := by
  induction ns generalizing e s k with
  | nil => exact ⟨_, rfl⟩
  | cons n ns ih =>
    obtain ⟨e', s', went, h'⟩ := goToPage_shows serves single countable sized few fits h n
    obtain ⟨x, rest⟩ := ih h'
    refine ⟨x, ?_⟩
    simp only [tour, Act.bind_run, went, Act.get_run, rest, List.map_cons, h'.rows]
    rfl

theorem tour_pageNumbers (serves : Serves link ready d q rows) (single : q.joins = [])
    (countable : q.Countable) (sized : q.pageSize = size) (few : rows.length ≤ 2 ^ 53)
    (fits : Fits size rows pages)
    {e : Engine} {s : σ} {k : Nat} (h : Shows ready d q size pages rows e s k) :
    ∃ x, tour link (pageNumbers pages) (e, s) =
      .ok ((List.range pages).map fun k => (pageOf size rows k).map .value) x := by
  obtain ⟨x, toured⟩ := tour_shows serves single countable sized few fits (pageNumbers pages) h
  refine ⟨x, ?_⟩
  rw [toured, pageNumbers, List.map_map]
  refine congrArg (EStateM.Result.ok · x) (List.map_congr_left fun k inside => ?_)
  simp only [Function.comp_apply, place_inside (.inr (List.mem_range.mp inside))]

theorem Serves.calculateTotals_run (serves : Serves link ready d q rows) {sql : String}
    (counting : q.countSql = .ok sql) (sized : q.pageSize = size) (positive : 0 < size)
    (bounded : size ≤ 2 ^ 53) (few : rows.length ≤ 2 ^ 53) {e : Engine} (same : e.query = q) {s : σ}
    (live : ready s) :
    ∃ t pages, ready t ∧ Fits size rows pages ∧ calculateTotals link (e, s) =
      .ok () ({ e with total := some (rows.length : Int), pages := some (pages : Int) }, t) := by
  subst same
  obtain ⟨pages, rounded, holds, least⟩ := Totals.pageCount_exact positive few bounded
  obtain ⟨t, kept, answered⟩ := serves.count sql s counting live
  have total : Totals.countOf (.list [.object [(countAlias, .int rows.length)]]) =
      .ok (rows.length : Int) := rfl
  refine ⟨t, pages, kept, ⟨holds, least⟩, ?_⟩
  rw [calculateTotals_counted link e s positive sized counting answered total, sized]
  simp only [rounded, if_pos (short_of_few few)]

theorem start_shows (serves : Serves link ready d q rows) (single : q.joins = [])
    (first : q.page = .whole 1) (sized : q.pageSize = size) (positive : 0 < size)
    (bounded : size ≤ 2 ^ 53) (few : rows.length ≤ 2 ^ 53) {sql : String}
    (statement : q.pageSql d = .ok sql) (owns : Bool) {s : σ} (live : ready s) :
    ∃ e s' pages, start link (⟨q, d, owns, sql, [], none, none, none⟩, s) = .ok () (e, s') ∧
      e.total = some (rows.length : Int) ∧ Fits size rows pages ∧
      Shows ready d q size pages rows e s' 0 := by
  have same : { q with page := .whole 1 } = q := by rw [← first]
  have written := Query.offsetClause_first first
  obtain ⟨_, limit, _, _, limited, _⟩ := Query.pageSql_ok_iff.mp statement
  obtain ⟨counting, counts⟩ := Query.countSql_of_pageSql statement
  have cut := Query.window_bounded (k := 0) sized first limited written rows
  obtain ⟨t, kept, fetched⟩ := serves.page_run single (Int.le_refl 1)
    (same.symm ▸ statement) limited (same.symm ▸ written) live
  obtain ⟨t', pages, left, fits, counted⟩ := serves.calculateTotals_run counts sized positive
    bounded few (e := ⟨q, d, owns, sql, _, none, none, none⟩) rfl kept
  exact ⟨_, t', pages, start_ok link _ s fetched counted, rfl, fits,
    ⟨rfl, same.symm, congrArg some first, rfl, congrArg _ cut, left, .inl rfl⟩⟩

theorem start_unbounded (serves : Serves link ready d q rows) (single : q.joins = [])
    (first : q.page = .whole 1) (unbounded : q.pageSize = -1) {sql : String}
    (statement : q.pageSql d = .ok sql) (owns : Bool) {s : σ} (live : ready s) :
    ∃ e s', start link (⟨q, d, owns, sql, [], none, none, none⟩, s) = .ok () (e, s') ∧
      e.total = some (rows.length : Int) ∧ e.pages = some 1 ∧ e.rows = rows.map .value := by
  have same : { q with page := .whole 1 } = q := by rw [← first]
  have written := Query.offsetClause_first first
  obtain ⟨_, limit, _, _, limited, _⟩ := Query.pageSql_ok_iff.mp statement
  obtain ⟨t, kept, fetched⟩ := serves.page_run single (Int.le_refl 1)
    (same.symm ▸ statement) limited (same.symm ▸ written) live
  rw [Query.window_unbounded unbounded limited written] at fetched
  have counted := calculateTotals_run_unbounded link
    ⟨q, d, owns, sql, rows.map .value, none, none, none⟩ t (by simp [Query.isUnbounded, unbounded])
  refine ⟨_, t, start_ok link _ s fetched counted, ?_, rfl, rfl⟩
  simp only [List.length_map]

end Steps

/-- What creating an engine gives that shows every row once and in order when it goes through its
pages. A page asked for after the last shows the last, and without a page size the one page holds
all rows, also when there are none. -/
def ShowsEveryRow {W : Type} (o : Outside W) (q : Query) (rows : List Value)
    (created : EStateM.Result Failure (Option Transport × Exchange W) Engine) : Prop :=
  ∃ e s, created = .ok e s ∧
    e.total = some (rows.length : Int) ∧
    (q.pageSize = -1 → e.pages = some 1 ∧ e.rows = rows.map .value) ∧
    (1 ≤ q.pageSize → ∃ pages : Nat, e.pages = some (pages : Int) ∧
      (rows = [] → pages = 0 ∧ e.rows = []) ∧
      ∃ shown x, tour (linkTo o) (pageNumbers pages) (e, s) = .ok shown x ∧
        Complete q.pageSize.toNat pages (rows.map .value) shown ∧
        ∀ visits n, (pages : Int) < n → 1 ≤ pages → ∃ others x,
          tour (linkTo o) (visits ++ [n]) (e, s) = .ok others x ∧
          others.getLast? = shown.getLast?)

theorem create_shows {W : Type} {o : Outside W} {registry : Registry} {installed : Bool}
    {settings : Settings} {dialect : Option Dialect} {q : Query} {given : Option Transport}
    {t : Transport} {rows : List Value} {ready : Option Transport × Exchange W → Prop} {d : Dialect}
    {owns : Bool} {sql : String} {x : Exchange W} (paged : q.Paged) (single : q.joins = [])
    (first : q.page = .whole 1) (sized : q.pageSize ≤ 2 ^ 53) (few : rows.length ≤ 2 ^ 53)
    (serves : Serves (linkTo o) ready d q rows) (live : ready (some t, x))
    (statement : q.pageSql d = .ok sql)
    (prepared : prepare registry installed settings given dialect q =
      .ok ⟨⟨q, d, owns, sql, [], none, none, none⟩, t⟩) :
    ShowsEveryRow o q rows (create o registry installed settings dialect q (given, x)) := by
  obtain ⟨counting, counts⟩ := Query.countSql_of_pageSql statement
  have countable : q.Countable := by
    rw [← Query.sourceText_exists_iff, ← Except.map_exists_iff, ← Query.countSql_eq_map]
    exact ⟨counting, counts⟩
  -- the page size of a query that was read is positive, or stands for no limit
  rcases paged.pageSize with unbounded | bounded
  · obtain ⟨e, s, started, total, pages, all⟩ :=
      start_unbounded serves single first unbounded statement owns live
    refine ⟨e, s, by simp only [create, prepared, started], total, fun _ => ⟨pages, all⟩, ?_⟩
    intro bounded
    omega
  · obtain ⟨size, sizedBy⟩ := Int.eq_ofNat_of_zero_le (Int.le_trans (by decide) bounded)
    have positive : 0 < size := by omega
    obtain ⟨e, s, pages, started, total, fits, shows⟩ := start_shows serves single first sizedBy
      positive (by omega) few statement owns live
    obtain ⟨y, toured⟩ := tour_pageNumbers serves single countable sizedBy few fits shows
    have whole : q.pageSize.toNat = size := by omega
    refine ⟨e, s, by simp only [create, prepared, started], total, by omega, fun _ =>
      ⟨pages, shows.counted, ?_, _, y, toured, whole ▸ fits.complete positive, ?_⟩⟩
    · rintro rfl
      exact ⟨fits.of_nil, by simp [shows.rows, pageOf]⟩
    · intro visits n past some_page
      obtain ⟨z, visited⟩ :=
        tour_shows serves single countable sizedBy few fits (visits ++ [n]) shows
      refine ⟨_, z, visited, ?_⟩
      -- both tours end on the page before which `last` pages stand
      obtain ⟨last, rfl⟩ : ∃ last, pages = last + 1 := ⟨pages - 1, by omega⟩
      rw [List.map_append, List.range_succ, List.map_append]
      simp [place_past past]

/-- An engine for a single table, over a transport to its rows, shows every row if the query is
written in JSON. So it does for any other query whose values can be written into a statement, and
without that no engine is created. -/
theorem pages_show_every_row {W : Type} (o : Outside W) (registry : Registry) (installed : Bool)
    (settings : Settings) (dialect : Option Dialect) (source : QuerySource) (input : QueryInput)
    (q : Query) (understood : source.input = .ok input) (accepted : input.normalize = .ok q)
    (single : q.joins = []) (first : q.page = .whole 1) (sized : q.pageSize ≤ 2 ^ 53)
    (given : Option Transport) (t : Transport)
    (chosen : given = some t ∨
      (given = none ∧ registry.transport installed q.mode settings = .ok t))
    (rows : List Value) (few : rows.length ≤ 2 ^ 53)
    (ready : Option Transport × Exchange W → Prop)
    (serves : Serves (linkTo o) ready (dialect.getD (Dialect.ofName settings.sqlDialect)) q rows)
    (x : Exchange W) (live : ready (some t, x)) :
    (∀ v, source = .written v → v.OfJson →
      ShowsEveryRow o q rows (create o registry installed settings dialect q (given, x))) ∧
    ((∀ p ∈ q.predicates, p.value.HasLiteral) →
      ShowsEveryRow o q rows (create o registry installed settings dialect q (given, x))) ∧
    ((¬ ∀ p ∈ q.predicates, p.value.HasLiteral) →
      ∃ f, create o registry installed settings dialect q (given, x) =
        .error (.fault f) (given, x)) := by
  have paged := QuerySource.normalize_paged understood accepted
  have page_size : q.pageSize = -1 ∨ Number.Short q.pageSize := by
    refine paged.pageSize.imp_right fun bounded => ?_
    obtain ⟨size, sizedBy⟩ := Int.eq_ofNat_of_zero_le (Int.le_trans (by decide) bounded)
    rw [sizedBy]
    exact short_of_few (by omega)
  have shown : (∀ p ∈ q.predicates, p.value.HasLiteral) →
      ShowsEveryRow o q rows (create o registry installed settings dialect q (given, x)) := by
    intro literals
    have written : { q with page := .whole 1 }.offsetClause = .ok "" :=
      Query.offsetClause_first rfl
    obtain ⟨sql, statement⟩ := pageSql_of_countable ⟨literals, page_size⟩ written
      (dialect.getD (Dialect.ofName settings.sqlDialect))
    rw [← first] at statement
    exact create_shows paged single first sized few serves live statement
      (prepare_chosen chosen statement)
  refine ⟨?_, shown, ?_⟩
  · rintro v rfl held
    cases understood
    refine shown fun p member => ?_
    have text : p.value.HasText := held.hasText.of_occurs (Query.predicate_occurs accepted member)
    exact Query.hasLiteral_of_hasText text
  · intro unwritten
    cases statement : q.pageSql (dialect.getD (Dialect.ofName settings.sqlDialect)) with
    | ok sql =>
      have writes := (Query.pageSql_exists_iff.mp ⟨sql, statement⟩).1
      exact absurd (Query.whereClause_exists_iff.mp writes) unwritten
    | error f => exact ⟨f, by simp only [create, prepare_unwritten chosen statement]⟩

end Serving

def trackPages : Query where
  table := "tracks"
  tablePrefix := "server_"
  filters := []
  connective := .and
  operator := .equal
  order := none
  joins := []
  pageSize := 2
  page := .whole 1
  mode := none

def tracks : List Value :=
  [.object [("id", .int 1)], .object [("id", .int 2)], .object [("id", .int 3)]]

/-- A world with that table. It takes what follows the limit in a statement as the offset. -/
def trackWorld : Outside Unit where
  answer c w := match c with
    | .deliver sql =>
      if sql = "SELECT COUNT(*) AS numItems FROM server_tracks LIMIT 2" then
        (.ok (.list [.object [(countAlias, .int 3)]]), w)
      else (.ok (.list (Sql.window "LIMIT 2" (String.ofList (sql.toList.drop 36)) tracks)), w)
    | _ => (.error (.fault .missingAttribute), w)

def trackTransport : Transport := .custom "Tracks" "tracks"

open Runtime.Usual

theorem trackPages_limit (page : Number) :
    { trackPages with page := page }.limitClause = .ok "LIMIT 2" :=
  show trackPages.limitClause = .ok "LIMIT 2" from rfl

theorem trackPages_offset {p : Int} {sql offset : String}
    (statement : { trackPages with page := .whole p }.pageSql Dialect.default = .ok sql)
    (written : { trackPages with page := .whole p }.offsetClause = .ok offset) :
    String.ofList (sql.toList.drop 36) = offset := by
  obtain ⟨filter, limit, other, filtered, limited, same, text⟩ := Query.pageSql_ok statement
  cases written.symm.trans same
  cases filtered
  cases (trackPages_limit (.whole p)).symm.trans limited
  have fixed : trackPages.selectClause.toList ++ Sql.trail [trackPages.fromClause,
      trackPages.joinClause, "", trackPages.orderClause Dialect.default, "LIMIT 2"] =
      "SELECT * FROM server_tracks LIMIT 2".toList := rfl
  have front : sql.toList = "SELECT * FROM server_tracks LIMIT 2".toList ++ Sql.trail [offset] := by
    calc sql.toList
      _ = trackPages.selectClause.toList ++ Sql.trail ([trackPages.fromClause,
          trackPages.joinClause, "", trackPages.orderClause Dialect.default, "LIMIT 2"] ++
            [offset]) := text
      _ = _ := by rw [Sql.trail_append, ← List.append_assoc, fixed]
  rw [front, ← String.toList_inj, String.toList_ofList]
  cases absent : offset.isEmpty with
  | true =>
    rw [String.isEmpty_iff] at absent
    subst absent
    rfl
  | false =>
    rw [Sql.trail_present absent]
    simp [Sql.trail_nil]

theorem trackPages_countSql :
    trackPages.countSql = .ok "SELECT COUNT(*) AS numItems FROM server_tracks LIMIT 2" := rfl

theorem trackWorld_serves :
    Serves (linkTo trackWorld) (fun s => s.1 = some trackTransport) Dialect.default trackPages
      tracks where
  page := by
    rintro p sql limit offset ⟨_, x⟩ _ statement limited written ⟨⟩
    have paged : sql ≠ "SELECT COUNT(*) AS numItems FROM server_tracks LIMIT 2" :=
      Query.pageSql_ne_countSql (q := { trackPages with page := .whole p }) statement
        trackPages_countSql
    refine ⟨(some trackTransport, ⟨x.world, x.log ++ [⟨.deliver sql, true⟩]⟩), rfl, ?_⟩
    have answered : (trackWorld.answer (.deliver sql) x.world) =
        (.ok (.list (Sql.window "LIMIT 2" offset tracks)), x.world) := by
      rw [← trackPages_offset statement written]
      exact if_neg paged
    cases (trackPages_limit (.whole p)).symm.trans limited
    rw [trackTransport, linkTo_custom, Outside.call, answered]
  count := by
    rintro sql ⟨_, x⟩ counting ⟨⟩
    cases trackPages_countSql.symm.trans counting
    exact ⟨(some trackTransport, ⟨x.world, x.log ++ [⟨.deliver _, true⟩]⟩), rfl, rfl⟩

theorem three_tracks_on_two_pages :
    ∃ e s, create trackWorld Registry.builtin false default (some Dialect.default) trackPages
        (some trackTransport, ⟨(), []⟩) = .ok e s ∧ e.total = some 3 ∧
      ∃ pages : Nat, e.pages = some (pages : Int) ∧
      ∃ shown x, tour (linkTo trackWorld) (pageNumbers pages) (e, s) = .ok shown x ∧
        Complete 2 pages (tracks.map .value) shown := by
  obtain ⟨all, _⟩ :=
    pages_show_every_row trackWorld Registry.builtin false default (some Dialect.default)
      (.written (.object [("table", .string "tracks"), ("itemsPerPage", .string "2")])) _ trackPages
      rfl rfl rfl rfl (by decide) (some trackTransport) trackTransport (.inl rfl) tracks (by decide)
      (fun s => s.1 = some trackTransport) trackWorld_serves ⟨(), []⟩ rfl
  have held : Value.OfJson (.object [("table", .string "tracks"), ("itemsPerPage", .string "2")]) :=
    ⟨1, by decide, "\x7b\"table\": \"tracks\", \"itemsPerPage\": \"2\"\x7d".toList, by cbv⟩
  obtain ⟨e, s, created, total, _, paged⟩ := all _ rfl held
  obtain ⟨pages, counted, _, shown, x, toured, complete, _⟩ := paged (by decide)
  exact ⟨e, s, created, total, pages, counted, shown, x, toured, complete⟩

end PagedQuery.Engine
