import PagedQuery.Proofs.Engine.Creation
import PagedQuery.Proofs.Engine.PageRange

/-! Turning pages, in full: what is sent through the link, what becomes of the engine, and that a
failure leaves it as it was. Asking again for a page that was reached does nothing. -/
namespace PagedQuery

open Act (settled)

theorem Link.page_recorded {σ : Type} (link : Link σ) (joined : Bool) (sql : String) (s : σ)
    (record : List Passage) : ∃ outcome t,
      link.recorded.page joined sql (s, record) =
        settled (Engine.rowsIn joined outcome) (t, record ++ [.sent sql outcome]) := by
  obtain ⟨outcome, t, sent⟩ := Act.noted_run (.sent sql) (link.send sql) s record
  refine ⟨outcome, t, ?_⟩
  simp only [Link.page, Act.bind_run, Link.recorded, sent]
  cases outcome with
  | error f => rfl
  | ok reply =>
    simp only [settled, Act.ofExcept_run]
    rfl

namespace Engine

def nearestPage (e : Engine) (n : Int) : Int :=
  match e.pages with
  | some last => max 1 (min n last)
  | none => max 1 n

def queryFor (e : Engine) (n : Int) : Query := { e.query with page := .whole (e.nearestPage n) }

def OnPage (e : Engine) (n : Int) : Prop := ∃ page, e.page = some page ∧ (Number.whole n).same page

/-- The page asked for, or the nearest one, is shown. -/
def IsAt (e : Engine) (n : Int) : Prop := e.OnPage n ∨ e.OnPage (e.nearestPage n)

theorem isCurrent_iff (e : Engine) (n : Int) : e.isCurrent (.whole n) ↔ e.OnPage n := by
  unfold isCurrent OnPage
  cases e.page <;> simp

theorem target_nearest (e : Engine) (n : Int) : e.target (.whole n) = .whole (e.nearestPage n) := by
  rw [target_whole, nearestPage]
  cases e.pages with
  | none =>
    simp only [clamp]
    split <;> congr 1 <;> omega
  | some last => rw [clamp_some]

theorem isAt_iff (e : Engine) (n : Int) :
    (e.isCurrent (.whole n) ∨ e.isCurrent (e.target (.whole n))) ↔ e.IsAt n := by
  rw [target_nearest, IsAt, isCurrent_iff, isCurrent_iff]

section Steps

variable {σ : Type} (link : Link σ) (e : Engine) (s : σ) (n : Int) (record : List Passage)

theorem execute_recorded_run : ∃ outcome t,
    execute link.recorded (e, (s, record)) =
      match rowsIn e.query.isJoined outcome with
      | .ok rows => .ok () ({ e with rows := rows }, (t, record ++ [.sent e.sql outcome]))
      | .error f => .error f (e, (t, record ++ [.sent e.sql outcome])) := by
  obtain ⟨outcome, t, fetched⟩ := link.page_recorded e.query.isJoined e.sql s record
  refine ⟨outcome, t, ?_⟩
  rw [execute_run, fetched]
  cases rowsIn e.query.isJoined outcome <;> rfl

theorem Forgets.settled_run {α : Type} {a : Act (Engine × (σ × List Passage)) α}
    {b : Act (Engine × σ) α} (forgets : Forgets a b) {e e' : Engine} {s t : σ}
    {record record' : List Passage} {result : Except Failure α}
    (run : a (e, (s, record)) = settled result (e', (t, record'))) :
    b (e, s) = settled result (e', t) := by
  have h := forgets e s record
  rw [run] at h
  cases result <;> exact h

variable [Runtime]

inductive Visit (e : Engine) (n : Int) : Except Failure Unit → Engine → List Passage → Prop
  | stayed (here : e.IsAt n) : Visit e n (.ok ()) e []
  | unwritten {f : Fault} (away : ¬ e.IsAt n)
    (statement : (e.queryFor n).pageSql e.dialect = .error f) : Visit e n (.error (.fault f)) e []
  | failed {sql : String} {outcome : Except Failure Value} {f : Failure} (away : ¬ e.IsAt n)
    (statement : (e.queryFor n).pageSql e.dialect = .ok sql)
    (page : rowsIn e.query.isJoined outcome = .error f) : Visit e n (.error f) e [.sent sql outcome]
  | arrived {sql : String} {outcome : Except Failure Value} {rows : List Row} (away : ¬ e.IsAt n)
    (statement : (e.queryFor n).pageSql e.dialect = .ok sql)
    (page : rowsIn e.query.isJoined outcome = .ok rows) :
    Visit e n (.ok ())
      { e with
        query := e.queryFor n
        sql := sql
        rows := rows
        page := some (.whole (e.nearestPage n)) }
      [.sent sql outcome]

theorem goToPage_stayed {e : Engine} (here : e.IsAt n) :
    goToPage link (.whole n) (e, s) = .ok () (e, s) := by
  rw [goToPage_run, if_pos ((isAt_iff e n).mpr here)]

theorem goToPage_visit :
    ∃ result e' t passages,
      goToPage link.recorded (.whole n) (e, (s, record)) =
        settled result (e', (t, record ++ passages)) ∧ Visit e n result e' passages := by
  by_cases here : e.IsAt n
  · refine ⟨.ok (), e, s, [], ?_, .stayed here⟩
    rw [goToPage_stayed _ _ _ here, List.append_nil]
    rfl
  · rw [goToPage_run, if_neg (mt (isAt_iff e n).mp here), turnTo_run, target_nearest, ← queryFor]
    cases statement : (e.queryFor n).pageSql e.dialect with
    | error f =>
      refine ⟨.error (.fault f), e, s, [], ?_, .unwritten here statement⟩
      rw [List.append_nil]
      rfl
    | ok sql =>
      obtain ⟨outcome, t, fetched⟩ := link.page_recorded e.query.isJoined sql s record
      simp only [fetched]
      cases page : rowsIn e.query.isJoined outcome with
      | error f => exact ⟨.error f, e, t, _, rfl, .failed here statement page⟩
      | ok rows => exact ⟨.ok (), _, t, _, rfl, .arrived here statement page⟩

theorem Visit.isAt {e e' : Engine} {result : Except Failure Unit} {passages : List Passage}
    (visit : Visit e n result e' passages) (went : result = .ok ()) : e'.IsAt n := by
  cases visit with
  | stayed here => exact here
  | unwritten | failed => cases went
  | arrived =>
    refine .inr ⟨_, rfl, ?_⟩
    simp [nearestPage, Number.same, Number.compare?, Number.compareInt?]

/-- Going to a page is a `Visit`: nothing happens when the engine is there; otherwise one statement
is sent, and either all of the page is taken over or nothing. After a visit that succeeds another
one does nothing. Fetching the page again is all or nothing too. -/
theorem visit_all_or_nothing :
    (∃ result e' t passages,
      goToPage link.recorded (.whole n) (e, (s, [])) = settled result (e', (t, passages)) ∧
      goToPage link (.whole n) (e, s) = settled result (e', t) ∧
      Visit e n result e' passages ∧
      (result = .ok () → ∀ u,
        goToPage link.recorded (.whole n) (e', (u, [])) = .ok () (e', (u, [])))) ∧
    ∃ outcome t, execute link.recorded (e, (s, [])) =
      match rowsIn e.query.isJoined outcome with
      | .ok rows => .ok () ({ e with rows := rows }, (t, [.sent e.sql outcome]))
      | .error f => .error f (e, (t, [.sent e.sql outcome])) := by
  obtain ⟨result, e', t, passages, run, visit⟩ := goToPage_visit link e s n []
  refine ⟨⟨result, e', t, passages, run, ?_, visit, ?_⟩, execute_recorded_run link e s []⟩
  · exact (goToPage_forgets link (.whole n)).settled_run run
  · intro went u
    exact goToPage_stayed link.recorded (u, []) n (visit.isAt n went)

end Steps

open Runtime.Usual in
theorem ninth_page_visited :
    ∃ q e s e' s', Query.normalize fifthPage = .ok q ∧
      create scripted Registry.builtin false default (some Dialect.default) q
        (some (.custom "Recording" "recording"), twelveInAll) = .ok e s ∧
      goToPage (linkTo scripted) (.whole 9) (e, s) = .ok () (e', s') ∧
      e'.page = some (.whole 2) :=
  ⟨_, _, _, _, _, rfl, rfl, rfl, rfl⟩

open Runtime.Usual in
theorem ninth_page_asked_twice :
    ∃ q e s e' s', Query.normalize fifthPage = .ok q ∧
      create scripted Registry.builtin false default (some Dialect.default) q
        (some (.custom "Recording" "recording"), twelveInAll) = .ok e s ∧
      goToPage (linkTo scripted) (.whole 9) (e, s) = .ok () (e', s') ∧
      e'.page = some (.whole 2) ∧
      goToPage (linkTo scripted).recorded (.whole 9) (e', (s', [])) = .ok () (e', (s', [])) := by
  obtain ⟨q, e, s, e', s', accepted, created, went, shown⟩ := ninth_page_visited
  obtain ⟨⟨result, e'', t, passages, _, run, _, again⟩, _⟩ :=
    visit_all_or_nothing (linkTo scripted) e s 9
  rw [went] at run
  cases result with
  | error f => cases run
  | ok _ =>
    cases run
    exact ⟨q, e, s, e', s', accepted, created, went, shown, again rfl s'⟩

end Engine
end PagedQuery
