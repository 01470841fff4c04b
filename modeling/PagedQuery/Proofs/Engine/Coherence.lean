import PagedQuery.Session
import PagedQuery.Proofs.Engine.Record
import PagedQuery.Proofs.Query.Reading
import PagedQuery.Proofs.Sql.Statement

/-! Coherence of an engine: its query, page, statement and rows belong together after any
operations, whatever the link answers. The invariant speaks of the record of the link, so a
page that was shown can be traced to the statement that brought it. -/
namespace PagedQuery.Engine

def Fetched (q : Query) (sql : String) (rows : List Row) (passage : Passage) : Prop :=
  ∃ reply, passage = .sent sql (.ok reply) ∧ Row.ofReply q.isJoined reply = .ok rows

theorem closed_not_fetched {q : Query} (outcome : Except Failure Unit) (text : String)
    (other : List Row) : ¬ Fetched q text other (.closed outcome) := by
  rintro ⟨reply, same, _⟩
  cases same

section Invariant

variable [Runtime]

def PageText (d : Dialect) (q : Query) (sql : String) : Prop :=
  ∃ p, 1 ≤ p ∧ { q with page := .whole p }.pageSql d = .ok sql

/-- The last page statement that brought rows, and the rows that it brought. -/
def LastPage (d : Dialect) (q : Query) (sql : String) (rows : List Row)
    (record : List Passage) : Prop :=
  ∃ before passage after, record = before ++ passage :: after ∧ Fetched q sql rows passage ∧
    ∀ later ∈ after, ∀ text, PageText d q text → ∀ other, ¬ Fetched q text other later

structure Consistent (d : Dialect) (q : Query) (e : Engine) (record : List Passage) : Prop where
  dialect : e.dialect = d
  query : ∃ p, 1 ≤ p ∧ e.query = { q with page := .whole p }
  sql : e.query.pageSql d = .ok e.sql
  texts : ∀ sql outcome, .sent sql outcome ∈ record →
    PageText d q sql ∨ (q.isUnbounded = false ∧ q.countSql = .ok sql)

structure Showing (d : Dialect) (q : Query) (e : Engine) (record : List Passage) : Prop
    extends Consistent d q e record where
  rows : LastPage d q e.sql e.rows record

structure Coherent (d : Dialect) (q : Query) (e : Engine) (record : List Passage) : Prop
    extends Showing d q e record where
  page : e.page = some e.query.page

end Invariant

section Passages

variable [Runtime] {d : Dialect} {q : Query} {e : Engine} {record : List Passage}
  {passage : Passage} {sql : String} {rows : List Row}

theorem PageText.ne_countSql (text : PageText d q sql) : q.countSql ≠ .ok sql := by
  obtain ⟨p, _, written⟩ := text
  intro counted
  have same : { q with page := .whole p }.countSql = .ok sql := counted
  exact Query.pageSql_ne_countSql written same rfl

theorem LastPage.of_fetched (fetched : Fetched q sql rows passage) :
    LastPage d q sql rows (record ++ [passage]) :=
  ⟨record, passage, [], rfl, fetched, fun _ none => by cases none⟩

theorem LastPage.append (last : LastPage d q sql rows record)
    (idle : ∀ text, PageText d q text → ∀ other, ¬ Fetched q text other passage) :
    LastPage d q sql rows (record ++ [passage]) := by
  obtain ⟨before, shown, after, rfl, fetched, later⟩ := last
  refine ⟨before, shown, after ++ [passage], by simp, fetched, ?_⟩
  intro next member
  rcases List.mem_append.mp member with member | member
  · exact later next member
  · cases List.mem_singleton.mp member
    exact idle

theorem count_not_fetched (counted : q.countSql = .ok sql) (outcome : Except Failure Value)
    (text : String) (page : PageText d q text) (other : List Row) :
    ¬ Fetched q text other (.sent sql outcome) := by
  rintro ⟨reply, same, _⟩
  cases same
  exact page.ne_countSql counted

theorem Consistent.append (h : Consistent d q e record)
    (allowed : ∀ sql outcome, passage = .sent sql outcome →
      PageText d q sql ∨ (q.isUnbounded = false ∧ q.countSql = .ok sql)) :
    Consistent d q e (record ++ [passage]) where
  dialect := h.dialect
  query := h.query
  sql := h.sql
  texts := by
    intro sql outcome member
    rcases List.mem_append.mp member with member | member
    · exact h.texts sql outcome member
    · exact allowed sql outcome (List.mem_singleton.mp member).symm

theorem Consistent.pageText (h : Consistent d q e record) : PageText d q e.sql := by
  obtain ⟨p, positive, same⟩ := h.query
  exact ⟨p, positive, same ▸ h.sql⟩

theorem Consistent.sent_page (h : Consistent d q e record) (text : PageText d q sql)
    (outcome : Except Failure Value) : Consistent d q e (record ++ [.sent sql outcome]) :=
  h.append fun _ _ same => by cases same; exact .inl text

theorem Consistent.sent_count (h : Consistent d q e record) (bounded : q.isUnbounded = false)
    (counted : q.countSql = .ok sql) (outcome : Except Failure Value) :
    Consistent d q e (record ++ [.sent sql outcome]) :=
  h.append fun _ _ same => by cases same; exact .inr ⟨bounded, counted⟩

theorem Consistent.isJoined (h : Consistent d q e record) : e.query.isJoined = q.isJoined := by
  obtain ⟨p, _, same⟩ := h.query
  rw [same]
  rfl

theorem Consistent.isUnbounded (h : Consistent d q e record) :
    e.query.isUnbounded = q.isUnbounded := by
  obtain ⟨p, _, same⟩ := h.query
  rw [same]
  rfl

theorem Consistent.countSql (h : Consistent d q e record) : e.query.countSql = q.countSql := by
  obtain ⟨p, _, same⟩ := h.query
  rw [same]
  rfl

theorem Showing.congr {e' : Engine} (h : Showing d q e record) (dialect : e'.dialect = e.dialect)
    (query : e'.query = e.query) (sql : e'.sql = e.sql) (rows : e'.rows = e.rows) :
    Showing d q e' record where
  dialect := dialect.trans h.dialect
  query := query ▸ h.query
  sql := by rw [query, sql]; exact h.sql
  texts := h.texts
  rows := by rw [sql, rows]; exact h.rows

theorem Showing.append_count (h : Showing d q e record) (bounded : q.isUnbounded = false)
    (counted : q.countSql = .ok sql) (outcome : Except Failure Value) :
    Showing d q e (record ++ [.sent sql outcome]) where
  toConsistent := h.sent_count bounded counted outcome
  rows := h.rows.append (count_not_fetched counted outcome)

theorem Showing.append_closed (h : Showing d q e record) (outcome : Except Failure Unit) :
    Showing d q e (record ++ [.closed outcome]) where
  toConsistent := h.append fun _ _ same => by cases same
  rows := h.rows.append fun text _ => closed_not_fetched outcome text

end Passages

section Steps

variable {σ : Type} (link : Link σ) (s : σ)

/-- A statement sent through a recorded link is in the record, and if it brought no rows it
counts as not fetched. -/
theorem recorded_page (record : List Passage) (joined : Bool) (sql : String) :
    (∃ reply rows t, link.recorded.page joined sql (s, record) =
        .ok rows (t, record ++ [.sent sql (.ok reply)]) ∧ Row.ofReply joined reply = .ok rows) ∨
    (∃ outcome f t, link.recorded.page joined sql (s, record) =
        .error f (t, record ++ [.sent sql outcome]) ∧
      ∀ reply rows, outcome = .ok reply → Row.ofReply joined reply ≠ .ok rows) := by
  simp only [Link.page, Act.bind_run, Link.recorded, Act.noted]
  cases link.send sql s with
  | error f t => exact .inr ⟨.error f, f, t, rfl, fun _ _ same => by cases same⟩
  | ok reply t =>
    cases read : Row.ofReply joined reply with
    | ok rows => exact .inl ⟨reply, rows, t, by simp only [read]; rfl, read⟩
    | error f =>
      refine .inr ⟨.ok reply, f, t, by simp only [read]; rfl, ?_⟩
      rintro _ _ ⟨⟩
      simp [read]

variable [Runtime] {d : Dialect} {q : Query} {e : Engine} {record : List Passage}

theorem execute_recorded (h : Consistent d q e record) :
    (∃ rows t passage, execute link.recorded (e, (s, record)) =
        .ok () ({ e with rows := rows }, (t, record ++ [passage])) ∧
      Consistent d q { e with rows := rows } (record ++ [passage]) ∧
      Fetched q e.sql rows passage) ∨
    (∃ f t passage, execute link.recorded (e, (s, record)) =
        .error f (e, (t, record ++ [passage])) ∧ Consistent d q e (record ++ [passage]) ∧
      ∀ text, PageText d q text → ∀ other, ¬ Fetched q text other passage) := by
  rw [execute_run, h.isJoined]
  rcases recorded_page link s record q.isJoined e.sql with
    ⟨reply, rows, t, run, read⟩ | ⟨outcome, f, t, run, failed⟩
  · have kept := h.sent_page h.pageText (.ok reply)
    exact .inl ⟨rows, t, _, by rw [run], ⟨kept.1, kept.2, kept.3, kept.4⟩, reply, rfl, read⟩
  · refine .inr ⟨f, t, _, by rw [run], h.sent_page h.pageText outcome, ?_⟩
    rintro text _ other ⟨reply, same, read⟩
    cases same
    exact failed reply other rfl read

theorem calculateTotals_showing (h : Showing d q e record) :
    ∀ x, (calculateTotals link.recorded).leaves (e, (s, record)) = x →
      Showing d q x.1 x.2.2 ∧ x.1.page = e.page ∧ x.1.query = e.query := by
  rintro _ rfl
  cases unbounded : q.isUnbounded with
  | true =>
    rw [Act.leaves, calculateTotals_run_unbounded _ _ _ (h.isUnbounded.trans unbounded)]
    exact ⟨h.congr rfl rfl rfl rfl, rfl, rfl⟩
  | false =>
    rw [Act.leaves, calculateTotals_run_bounded _ _ _ (h.isUnbounded.trans unbounded), h.countSql]
    cases counted : q.countSql with
    | error f => exact ⟨h, rfl, rfl⟩
    | ok sql =>
      simp only [Link.recorded, Act.noted]
      cases link.send sql s with
      | error f t => exact ⟨h.append_count unbounded counted _, rfl, rfl⟩
      | ok reply t =>
        have shows := h.append_count unbounded counted (.ok reply)
        simp only []
        cases Totals.countOf reply with
        | error f => exact ⟨shows, rfl, rfl⟩
        | ok total =>
          simp only []
          cases Totals.pageCount total e.query.pageSize with
          | error f => exact ⟨shows.congr rfl rfl rfl rfl, rfl, rfl⟩
          | ok pages =>
            simp only []
            cases Totals.logLine e.query.qualifiedTable total pages <;>
              exact ⟨shows.congr rfl rfl rfl rfl, rfl, rfl⟩

theorem close_coherent (h : Coherent d q e record) :
    Coherent d q ((close link.recorded).leaves (e, (s, record))).1
      ((close link.recorded).leaves (e, (s, record))).2.2 := by
  rw [Act.leaves, close_run]
  cases e.ownsTransport with
  | false => exact h
  | true =>
    simp only [if_true, Link.recorded, Act.noted]
    cases link.close s <;> exact ⟨h.append_closed _, h.page⟩

theorem execute_coherent (h : Coherent d q e record) :
    Coherent d q ((execute link.recorded).leaves (e, (s, record))).1
      ((execute link.recorded).leaves (e, (s, record))).2.2 := by
  rcases execute_recorded link s h.toConsistent with
    ⟨rows, t, passage, run, kept, fetched⟩ | ⟨f, t, passage, run, kept, idle⟩
  · rw [Act.leaves, run]
    exact ⟨⟨kept, .of_fetched fetched⟩, h.page⟩
  · rw [Act.leaves, run]
    -- the rows that are kept were still brought by the last statement that brought any
    exact ⟨⟨kept, h.rows.append idle⟩, h.page⟩

theorem buildSql_coherent (h : Coherent d q e record) :
    Coherent d q ((Operation.buildSql.run link.recorded).leaves (e, (s, record))).1
      ((Operation.buildSql.run link.recorded).leaves (e, (s, record))).2.2 := by
  obtain rfl := h.dialect
  rw [Act.leaves, Operation.run, Act.bind_run, buildSql_run, h.sql]
  exact h

theorem turnTo_coherent (h : Coherent d q e record) {p : Int} (positive : 1 ≤ p) :
    Coherent d q ((turnTo link.recorded (.whole p)).leaves (e, (s, record))).1
      ((turnTo link.recorded (.whole p)).leaves (e, (s, record))).2.2 := by
  obtain rfl := h.dialect
  obtain ⟨old, _, same⟩ := h.query
  -- only the page of the query can have changed before, and it is overwritten now
  have turned : { e.query with page := Number.whole p } = { q with page := .whole p } := by
    rw [same]
  rw [Act.leaves, turnTo_run, turned, h.isJoined]
  cases written : { q with page := Number.whole p }.pageSql e.dialect with
  | error f => exact h
  | ok sql =>
    have text : PageText e.dialect q sql := ⟨p, positive, written⟩
    simp only []
    rcases recorded_page link s record q.isJoined sql with
      ⟨reply, rows, t, run, read⟩ | ⟨outcome, f, t, run, failed⟩
    · have kept := h.sent_page text (.ok reply)
      rw [run]
      exact ⟨⟨⟨rfl, ⟨p, positive, rfl⟩, written, kept.texts⟩,
        .of_fetched ⟨reply, rfl, read⟩⟩, rfl⟩
    · rw [run]
      refine ⟨⟨h.sent_page text outcome, h.rows.append ?_⟩, h.page⟩
      rintro other _ rows ⟨reply, same, read⟩
      cases same
      exact failed reply rows rfl read

/-- Every operation keeps an engine coherent, whether it fails or not. -/
theorem run_coherent (op : Operation) (h : Coherent d q e record) :
    Coherent d q ((op.run link.recorded).leaves (e, (s, record))).1
      ((op.run link.recorded).leaves (e, (s, record))).2.2 := by
  cases op with
  | execute => exact execute_coherent link s h
  | buildSql => exact buildSql_coherent link s h
  | calculateTotals =>
    obtain ⟨kept, page, query⟩ := calculateTotals_showing link s h.toShowing _ rfl
    exact ⟨kept, page.trans (h.page.trans (congrArg (fun q => some q.page) query.symm))⟩
  | close => exact close_coherent link s h
  | goToPage n =>
    rw [Operation.run, Act.leaves, goToPage_run, target_whole]
    by_cases still : e.isCurrent (.whole n) = true ∨ e.isCurrent (.whole (clamp e.pages n)) = true
    · rw [if_pos still]
      exact h
    · rw [if_neg still]
      exact turnTo_coherent link s h (one_le_clamp e.pages n)

theorem perform_coherent (ops : List Operation) (h : Coherent d q e record) :
    Coherent d q (perform link.recorded ops (e, (s, record))).1
      (perform link.recorded ops (e, (s, record))).2.2 := by
  induction ops generalizing e s record with
  | nil => exact h
  | cons op ops ih =>
    have next := run_coherent link s op h
    exact ih _ next

theorem run_totals (op : Operation) (other : op ≠ .calculateTotals) (e : Engine) (s : σ) :
    ((op.run link).leaves (e, s)).1.pages = e.pages ∧
      ((op.run link).leaves (e, s)).1.total = e.total := by
  cases op with
  | execute =>
    rw [Operation.run, Act.leaves, execute_run]
    cases link.page e.query.isJoined e.sql s <;> exact ⟨rfl, rfl⟩
  | buildSql =>
    rw [Operation.run, Act.leaves, Act.bind_run, buildSql_run]
    cases e.query.pageSql e.dialect <;> exact ⟨rfl, rfl⟩
  | calculateTotals => exact absurd rfl other
  | close =>
    rw [Operation.run, Act.leaves, close_run]
    cases e.ownsTransport with
    | false => exact ⟨rfl, rfl⟩
    | true =>
      simp only [if_true]
      cases link.close s <;> exact ⟨rfl, rfl⟩
  | goToPage n =>
    rw [Operation.run, Act.leaves, goToPage_run]
    by_cases still : e.isCurrent (.whole n) = true ∨ e.isCurrent (e.target (.whole n)) = true
    · rw [if_pos still]
      exact ⟨rfl, rfl⟩
    · rw [if_neg still, turnTo_run]
      cases { e.query with page := e.target (.whole n) }.pageSql e.dialect with
      | error f => exact ⟨rfl, rfl⟩
      | ok sql =>
        simp only []
        cases link.page e.query.isJoined sql s <;> exact ⟨rfl, rfl⟩

theorem start_coherent (h : Consistent d q e record) {e' : Engine} {t : σ × List Passage}
    (started : start link.recorded (e, (s, record)) = .ok () (e', t)) :
    Coherent d q e' t.2 := by
  obtain ⟨_, e₁, _, executed, counted, same⟩ := (start_ok_iff _ _ _ _).mp started
  cases same
  rcases execute_recorded link s h with
    ⟨rows, t₀, passage, run, kept, fetched⟩ | ⟨f, t₀, passage, run, _, _⟩
  · cases run.symm.trans executed
    have shows : Showing d q { e with rows := rows } (record ++ [passage]) :=
      ⟨kept, .of_fetched fetched⟩
    have left : (calculateTotals link.recorded).leaves
        ({ e with rows := rows }, (t₀, record ++ [passage])) = (e₁, t) := by
      rw [Act.leaves, counted]
    obtain ⟨shows, _⟩ := calculateTotals_showing link _ shows _ left
    exact ⟨shows.congr rfl rfl rfl rfl, rfl⟩
  · cases run.symm.trans executed

end Steps

section Created

variable [Runtime]

theorem make_consistent {q : Query} (paged : q.Paged) {d : Dialect} {owns : Bool} {e : Engine}
    (made : make q d owns = .ok e) : Consistent d q e [] := by
  obtain ⟨p, positive, page⟩ := paged.page
  unfold make at made
  split at made
  · rename_i sql written
    cases made
    exact ⟨rfl, ⟨p, positive, by rw [← page]⟩, written, fun _ _ none => by cases none⟩
  · cases made

theorem prepare_consistent {registry : Registry} {installed : Bool} {settings : Settings}
    {given : Option Transport} {dialect : Option Dialect} {q : Query} (paged : q.Paged)
    {prepared : Prepared}
    (ready : prepare registry installed settings given dialect q = .ok prepared) :
    Consistent prepared.engine.dialect q prepared.engine [] := by
  have made : make q (dialect.getD (Dialect.ofName settings.sqlDialect)) given.isNone =
      .ok prepared.engine := by
    unfold prepare at ready
    cases given <;>
    · simp only [Except.bind_ok_iff] at ready
      obtain ⟨_, _, _, made, out⟩ := ready
      cases out
      exact made
  have h := make_consistent paged made
  exact h.dialect ▸ h

/-- An engine that was created for a query object stays coherent over any run of operations, in
any world. Its record holds the statements sent from its creation on: `start` is run over the
recorded link from an empty record, and forgetting the record gives the run itself. -/
theorem created_engine_coherent {W : Type} (o : Outside W) (registry : Registry) (installed : Bool)
    (settings : Settings) (dialect : Option Dialect) (source : QuerySource) (input : QueryInput)
    (q : Query) (understood : source.input = .ok input) (accepted : input.normalize = .ok q)
    (given : Option Transport) (x : Exchange W) (e : Engine) (s : Option Transport × Exchange W)
    (created : create o registry installed settings dialect q (given, x) = .ok e s) :
    ∃ prepared first,
      prepare registry installed settings given dialect q = .ok prepared ∧
      start (linkTo o).recorded (prepared.engine, ((some prepared.transport, x), [])) =
        .ok () (e, (s, first)) ∧
      ∀ ops, ∃ e' s' record,
        perform (linkTo o).recorded ops (e, (s, first)) = (e', (s', record)) ∧
        perform (linkTo o) ops (e, s) = (e', s') ∧
        Coherent prepared.engine.dialect q e' record ∧
        e'.query.countSql = q.countSql ∧
        (q.isUnbounded = true →
          ∀ sql outcome, .sent sql outcome ∈ record → q.countSql ≠ .ok sql) ∧
        ∀ op : Operation, op ≠ .calculateTotals →
          ((op.run (linkTo o)).leaves (e', s')).1.pages = e'.pages ∧
          ((op.run (linkTo o)).leaves (e', s')).1.total = e'.total := by
  unfold create at created
  split at created
  · cases created
  · rename_i prepared ready
    have forgets := start_forgets (linkTo o) prepared.engine (some prepared.transport, x) []
    -- what the run over the recorded link gives is what `create` gave, with its record
    cases run : start (linkTo o).recorded
        (prepared.engine, ((some prepared.transport, x), [])) with
    | error f t =>
      rw [run] at forgets
      rw [forgets] at created
      cases created
    | ok _ t =>
      rw [run] at forgets
      rw [forgets] at created
      cases created
      have first := start_coherent (linkTo o) _
        (prepare_consistent (QuerySource.normalize_paged understood accepted) ready) run
      refine ⟨prepared, t.2.2, ready, run, fun ops => ?_⟩
      have reached := perform_coherent (linkTo o) t.2.1 ops first
      refine ⟨_, _, _, rfl, perform_forgets (linkTo o) ops _ _ t.2.2, reached,
        reached.countSql, ?_, fun op other => run_totals (linkTo o) op other _ _⟩
      intro unbounded sql outcome member
      rcases reached.texts sql outcome member with page | ⟨bounded, _⟩
      · exact page.ne_countSql
      · cases unbounded.symm.trans bounded

end Created

def secondPage : Value :=
  .object [("table", .string "tracks"), ("itemsPerPage", .int 2), ("page", .int 2)]

def thirdOfThree : Exchange Script :=
  ⟨Script.ofReplies [{ rows := .list [.object [("id", .int 3)]] },
    { rows := .list [.object [("numItems", .int 3)]] }], []⟩

open Runtime.Usual in
theorem second_page_coherent :
    ∃ q e s, Query.normalize secondPage = .ok q ∧
      create scripted Registry.builtin false default (some Dialect.default) q
        (some (.custom "Recording" "recording"), thirdOfThree) = .ok e s ∧
      e.pages = some 2 ∧
      ∀ ops, ∃ e' s' record, perform (linkTo scripted) ops (e, s) = (e', s') ∧
        Coherent Dialect.default q e' record := by
  refine ⟨_, _, _, rfl, rfl, rfl, fun ops => ?_⟩
  obtain ⟨_, _, ready, _, run⟩ := created_engine_coherent scripted Registry.builtin false default
    (some Dialect.default) (.written secondPage) _ _ rfl (by rfl)
    (some (.custom "Recording" "recording")) thirdOfThree _ _ (by rfl)
  cases ready
  obtain ⟨e', s', record, _, performed, coherent, _⟩ := run ops
  exact ⟨e', s', record, performed, coherent⟩

end PagedQuery.Engine
