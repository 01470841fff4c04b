import Mathlib.Algebra.Order.Group.Int
import PagedQuery.Proofs.Engine.Coherence

/-! The range of pages. Every created engine knows a page and a number of pages; going to a page
brings it inside that range, except that the page already shown is left alone wherever it is. -/
namespace PagedQuery.Engine

structure Placed (e : Engine) (page pages : Int) : Prop where
  shown : e.page = some (.whole page)
  known : e.pages = some pages
  positive : 1 ≤ page

theorem clamp_some (pages n : Int) : clamp (some pages) n = max 1 (min n pages) := by
  simp only [clamp]
  split <;> split <;> omega

section Steps

variable [Runtime] {σ : Type} (link : Link σ) (s : σ) {e : Engine} {page pages : Int}

theorem calculateTotals_frame (e : Engine) :
    ∃ e' t, ((∃ f, calculateTotals link (e, s) = .error f (e', t) ∧
          (e'.pages = e.pages ∨ ∃ pages, e'.pages = some pages)) ∨
        (calculateTotals link (e, s) = .ok () (e', t) ∧ ∃ pages, e'.pages = some pages)) ∧
      e'.page = e.page ∧ e'.query = e.query := by
  cases unbounded : e.query.isUnbounded with
  | true =>
    exact ⟨_, _, .inr ⟨calculateTotals_run_unbounded link e s unbounded, 1, rfl⟩, rfl, rfl⟩
  | false =>
    rw [calculateTotals_run_bounded link e s unbounded]
    cases e.query.countSql with
    | error f => exact ⟨e, s, .inl ⟨_, rfl, .inl rfl⟩, rfl, rfl⟩
    | ok sql =>
      simp only []
      cases link.send sql s with
      | error f t => exact ⟨_, t, .inl ⟨f, rfl, .inl rfl⟩, rfl, rfl⟩
      | ok reply t =>
        simp only []
        cases Totals.countOf reply with
        | error f => exact ⟨_, t, .inl ⟨_, rfl, .inl rfl⟩, rfl, rfl⟩
        | ok total =>
          simp only []
          cases Totals.pageCount total e.query.pageSize with
          | error f => exact ⟨_, t, .inl ⟨_, rfl, .inl rfl⟩, rfl, rfl⟩
          | ok pages =>
            simp only []
            cases Totals.logLine e.query.qualifiedTable total pages with
            | error f => exact ⟨_, t, .inl ⟨_, rfl, .inr ⟨pages, rfl⟩⟩, rfl, rfl⟩
            | ok _ => exact ⟨_, t, .inr ⟨rfl, pages, rfl⟩, rfl, rfl⟩

theorem Placed.calculateTotals (h : Placed e page pages) :
    ∃ pages', Placed ((calculateTotals link).leaves (e, s)).1 page pages' := by
  obtain ⟨e', t, ⟨f, run, kept | ⟨counted, known⟩⟩ | ⟨run, counted, known⟩, same, _⟩ :=
    calculateTotals_frame link s e <;> rw [Act.leaves, run]
  · exact ⟨pages, same.trans h.shown, kept.trans h.known, h.positive⟩
  · exact ⟨counted, same.trans h.shown, known, h.positive⟩
  · exact ⟨counted, same.trans h.shown, known, h.positive⟩

/-- Going to a page that is not shown brings the page asked for into the range of pages, or fails
and leaves the page alone. The page shown is not looked at again. -/
theorem Placed.goToPage (h : Placed e page pages) (n : Int) :
    ∃ e' t, (Engine.goToPage link (.whole n) (e, s) = .ok () (e', t) ∧
        Placed e' (if n = page then page else max 1 (min n pages)) pages) ∨
      ∃ f, Engine.goToPage link (.whole n) (e, s) = .error f (e', t) ∧ Placed e' page pages := by
  rw [goToPage_run, target_whole, isCurrent_whole e h.shown, isCurrent_whole e h.shown, h.known,
    clamp_some]
  simp only [decide_eq_true_eq]
  by_cases still : n = page ∨ max 1 (min n pages) = page
  · rw [if_pos still]
    have same : (if n = page then page else max 1 (min n pages)) = page := by
      split
      · rfl
      · exact still.resolve_left ‹_›
    exact ⟨e, s, .inl ⟨rfl, same.symm ▸ h⟩⟩
  · obtain ⟨moves, elsewhere⟩ := not_or.mp still
    rw [if_neg still, turnTo_run, if_neg moves]
    cases { e.query with page := Number.whole (max 1 (min n pages)) }.pageSql e.dialect with
    | error f => exact ⟨e, s, .inr ⟨_, rfl, h⟩⟩
    | ok sql =>
      simp only []
      cases link.page e.query.isJoined sql s with
      | error f t => exact ⟨e, t, .inr ⟨f, rfl, h⟩⟩
      | ok rows t => exact ⟨_, t, .inl ⟨rfl, rfl, h.known, le_max_left ..⟩⟩

theorem Placed.run (h : Placed e page pages) (op : Operation) :
    ∃ page' pages', Placed ((op.run link).leaves (e, s)).1 page' pages' := by
  cases op with
  | execute =>
    rw [Operation.run, Act.leaves, execute_run]
    cases link.page e.query.isJoined e.sql s <;> exact ⟨_, _, h.shown, h.known, h.positive⟩
  | buildSql =>
    rw [Operation.run, Act.leaves, Act.bind_run, buildSql_run]
    cases e.query.pageSql e.dialect <;> exact ⟨_, _, h.shown, h.known, h.positive⟩
  | calculateTotals => exact ⟨page, h.calculateTotals link s⟩
  | close =>
    rw [Operation.run, Act.leaves, close_run]
    cases e.ownsTransport with
    | false => exact ⟨_, _, h⟩
    | true =>
      simp only [if_true]
      cases link.close s <;> exact ⟨_, _, h⟩
  | goToPage n =>
    obtain ⟨e', t, ⟨run, placed⟩ | ⟨f, run, placed⟩⟩ := h.goToPage link s n
    · rw [Operation.run, Act.leaves, run]
      exact ⟨_, _, placed⟩
    · rw [Operation.run, Act.leaves, run]
      exact ⟨_, _, placed⟩

theorem Placed.perform (h : Placed e page pages) (ops : List Operation) :
    ∃ page' pages', Placed (perform link ops (e, s)).1 page' pages' := by
  induction ops generalizing e s page pages with
  | nil => exact ⟨page, pages, h⟩
  | cons op ops ih =>
    obtain ⟨_, _, next⟩ := h.run link s op
    exact ih _ next

theorem start_placed {p : Int} (positive : 1 ≤ p) (asked : e.query.page = .whole p)
    {e' : Engine} {t : σ} (started : start link (e, s) = .ok () (e', t)) :
    ∃ pages, Placed e' p pages := by
  obtain ⟨x, counted, t', executed, totals, same⟩ := (start_ok_iff _ _ _ _).mp started
  cases same
  rw [execute_run] at executed
  split at executed
  · rename_i rows t₀ fetched
    cases executed
    obtain ⟨_, _, ⟨f, run, _⟩ | ⟨run, pages, known⟩, _, query⟩ :=
      calculateTotals_frame link t₀ { e with rows := rows }
    · cases run.symm.trans totals
    · cases run.symm.trans totals
      exact ⟨pages, by rw [query, asked], known, positive⟩
  · cases executed

end Steps

/-- Going to page `n` shows the page of the range that is nearest to `n`, in whatever state a
created engine is, but for one case: when `n` is the page shown, nothing is done, also when that
page has come to lie after the last one. Exactly then the page shown is not the nearest one. -/
theorem page_stays_in_range [Runtime] {W : Type} (o : Outside W) (registry : Registry)
    (installed : Bool) (settings : Settings) (dialect : Option Dialect) (source : QuerySource)
    (input : QueryInput) (q : Query) (understood : source.input = .ok input)
    (accepted : input.normalize = .ok q)
    (given : Option Transport) (x : Exchange W) (e : Engine) (s : Option Transport × Exchange W)
    (created : create o registry installed settings dialect q (given, x) = .ok e s)
    (ops : List Operation) (n : Int) (e' : Engine) (s' : Option Transport × Exchange W)
    (went : goToPage (linkTo o) (.whole n) (perform (linkTo o) ops (e, s)) = .ok () (e', s')) :
    ∃ before page pages, (perform (linkTo o) ops (e, s)).1.page = some (.whole before) ∧
      e'.page = some (.whole page) ∧ e'.pages = some pages ∧ 1 ≤ page ∧
      page = (if n = before then before else max 1 (min n pages)) ∧
      (page = max 1 (min n pages) ↔ (n = before → before ≤ max 1 pages)) ∧
      (page ≤ max 1 pages ↔ (n = before → before ≤ max 1 pages)) := by
  obtain ⟨prepared, ready, started⟩ := create_ok created
  obtain ⟨p, positive, same⟩ :=
    (prepare_consistent (QuerySource.normalize_paged understood accepted) ready).query
  obtain ⟨_, first⟩ := start_placed (linkTo o) _ positive (by rw [same]) started
  obtain ⟨before, pages, placed⟩ := first.perform (linkTo o) s ops
  obtain ⟨_, _, ⟨run, arrived⟩ | ⟨_, run, _⟩⟩ := placed.goToPage (linkTo o) _ n
  · cases run.symm.trans went
    refine ⟨before, _, pages, placed.shown, arrived.shown, arrived.known, arrived.positive, rfl, ?_⟩
    have reached := placed.positive
    by_cases still : n = before
    · simp only [if_pos still]
      omega
    · have inside : max 1 (min n pages) ≤ max 1 pages := by omega
      simp [still, inside]
  · cases run.symm.trans went

def fifthPage : Value :=
  .object [("table", .string "tracks"), ("itemsPerPage", .int 10), ("page", .int 5)]

/-- A world with twelve rows, of which none are on the fifth page. -/
def twelveInAll : Exchange Script :=
  ⟨Script.ofReplies [{}, { rows := .list [.object [("numItems", .int 12)]] }], []⟩

open Runtime.Usual in
theorem page_after_last_stays :
    ∃ q e s, Query.normalize fifthPage = .ok q ∧
      create scripted Registry.builtin false default (some Dialect.default) q
        (some (.custom "Recording" "recording"), twelveInAll) = .ok e s ∧
      ∃ e' s', goToPage (linkTo scripted) (.whole 5) (e, s) = .ok () (e', s') ∧
        e'.page = some (.whole 5) ∧ e'.pages = some 2 ∧ (5 : Int) ≠ max 1 (min 5 2) :=
  ⟨_, _, _, rfl, rfl, _, _, rfl, rfl, rfl, by decide⟩

open Runtime.Usual in
theorem ninth_page_is_second :
    ∃ q e s, Query.normalize fifthPage = .ok q ∧
      create scripted Registry.builtin false default (some Dialect.default) q
        (some (.custom "Recording" "recording"), twelveInAll) = .ok e s ∧
      ∃ e' s', goToPage (linkTo scripted) (.whole 9)
          (perform (linkTo scripted) [.execute] (e, s)) = .ok () (e', s') ∧
        e'.page = some (.whole 2) := by
  refine ⟨_, _, _, rfl, rfl, _, _, rfl, ?_⟩
  obtain ⟨before, page, pages, shown, arrived, known, _, placed, _⟩ :=
    page_stays_in_range scripted Registry.builtin false default (some Dialect.default)
      (.written fifthPage) _ _ rfl (by rfl) (some (.custom "Recording" "recording")) twelveInAll
      _ _ rfl [.execute] 9 _ _ rfl
  cases shown
  cases known
  rw [arrived, placed]
  rfl

end PagedQuery.Engine
