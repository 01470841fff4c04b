import PagedQuery.Engine.Create

/-! What each operation of an engine does, as a function of what its link answers. Everything
else that is known of engines is derived from these equations. -/
namespace PagedQuery

def Link.page {σ : Type} (link : Link σ) (joined : Bool) (sql : String) : Act σ (List Row) := do
  let reply ← link.send sql
  Act.ofExcept (Row.ofReply joined reply)

namespace Act

variable {σ τ α β : Type}

def settled (result : Except Failure α) (s : σ) : EStateM.Result Failure σ α :=
  match result with
  | .ok a => .ok a s
  | .error f => .error f s

theorem exists_settled (a : Act σ α) (s : σ) : ∃ result t, a s = settled result t := by
  cases a s with
  | ok x t => exact ⟨.ok x, t, rfl⟩
  | error f t => exact ⟨.error f, t, rfl⟩

theorem ofExcept_run (result : Except Failure α) (s : σ) :
    (ofExcept result : Act σ α) s = settled result s := by
  cases result <;> rfl

theorem bind_run (a : Act σ α) (f : α → Act σ β) (s : σ) :
    (a >>= f) s = match a s with
      | .ok x t => f x t
      | .error e t => .error e t := by
  simp only [bind, EStateM.bind]
  cases a s <;> rfl

theorem get_run (s : σ) : (get : Act σ σ) s = .ok s s := rfl

theorem second_run (a : Act σ α) (t : τ) (s : σ) :
    (second a : Act (τ × σ) α) (t, s) = match a s with
      | .ok x s => .ok x (t, s)
      | .error e s => .error e (t, s) := rfl

end Act

namespace Engine

variable {σ : Type} (link : Link σ) (e : Engine) (s : σ)

theorem update_run (f : Engine → Engine) :
    (update f : Act (Engine × σ) Unit) (e, s) = .ok () (f e, s) := rfl

theorem fetch_run (sql : String) :
    fetch link sql (e, s) = match link.page e.query.isJoined sql s with
      | .ok rows t => .ok rows (e, t)
      | .error f t => .error f (e, t) := by
  simp only [fetch, Link.page, Act.bind_run, Act.second_run]
  cases link.send sql s with
  | ok reply t =>
    simp only [Act.get_run]
    cases Row.ofReply e.query.isJoined reply <;> rfl
  | error f t => rfl

theorem execute_run :
    execute link (e, s) = match link.page e.query.isJoined e.sql s with
      | .ok rows t => .ok () ({ e with rows := rows }, t)
      | .error f t => .error f (e, t) := by
  simp only [execute, Act.bind_run, Act.get_run, fetch_run]
  cases link.page e.query.isJoined e.sql s <;> rfl

theorem close_run :
    close link (e, s) =
      if e.ownsTransport then
        match link.close s with
        | .ok _ t => .ok () (e, t)
        | .error f t => .error f (e, t)
      else .ok () (e, s) := by
  simp only [close, Act.bind_run, Act.get_run]
  cases e.ownsTransport with
  | false => rfl
  | true =>
    simp only [if_true, Act.second_run]
    cases link.close s <;> rfl

theorem isCurrent_whole {p : Int} (shown : e.page = some (.whole p)) (n : Int) :
    e.isCurrent (.whole n) = decide (n = p) := by
  by_cases h : n = p <;>
    simp [isCurrent, shown, Number.same, Number.compare?, Number.compareInt?, h]

/-- The page shown for a page asked for: not after the last one, and not before the first. -/
def clamp (pages : Option Int) (n : Int) : Int :=
  let bounded := match pages with
    | some last => if last < n then last else n
    | none => n
  if bounded < 1 then 1 else bounded

theorem one_le_clamp (pages : Option Int) (n : Int) : 1 ≤ clamp pages n := by
  unfold clamp
  dsimp only
  generalize (match pages with
    | some last => if last < n then last else n
    | none => n) = bounded
  split <;> omega

theorem target_whole (n : Int) : e.target (.whole n) = .whole (clamp e.pages n) := by
  unfold target clamp
  cases e.pages with
  | none =>
    simp only [Number.below, Number.compareInt?]
    by_cases low : n < 1 <;> simp [low, Int.compare_eq_lt]
  | some last =>
    simp only [Number.above, Number.compareInt?]
    by_cases high : last < n
    · by_cases low : last < 1 <;>
        simp [high, low, Int.compare_eq_gt, Int.compare_eq_lt, Number.below, Number.compareInt?]
    · by_cases low : n < 1 <;>
        simp [high, low, Int.compare_eq_gt, Int.compare_eq_lt, Number.below, Number.compareInt?]

variable [Runtime]

theorem buildSql_run :
    buildSql (e, s) = match e.query.pageSql e.dialect with
      | .ok sql => .ok sql ({ e with sql := sql }, s)
      | .error f => .error (.fault f) (e, s) := by
  simp only [buildSql, Act.bind_run, Act.get_run]
  cases e.query.pageSql e.dialect <;> rfl

theorem calculateTotals_run_unbounded (unbounded : e.query.isUnbounded = true) :
    calculateTotals link (e, s) =
      .ok () ({ e with pages := some 1, total := some e.rows.length }, s) := by
  simp only [calculateTotals, Act.bind_run, Act.get_run, unbounded]
  rfl

theorem calculateTotals_run_bounded (bounded : e.query.isUnbounded = false) :
    calculateTotals link (e, s) = match e.query.countSql with
      | .error f => .error (.fault f) (e, s)
      | .ok sql => match link.send sql s with
        | .error f t => .error f (e, t)
        | .ok reply t => match Totals.countOf reply with
          | .error f => .error (.fault f) (e, t)
          | .ok total => match Totals.pageCount total e.query.pageSize with
            | .error f => .error (.fault f) ({ e with total := some total }, t)
            | .ok pages => match Totals.logLine e.query.qualifiedTable total pages with
              | .error f =>
                .error (.fault f) ({ e with total := some total, pages := some pages }, t)
              | .ok _ => .ok () ({ e with total := some total, pages := some pages }, t) := by
  simp only [calculateTotals, Act.bind_run, Act.get_run, bounded, Bool.false_eq_true, if_false]
  cases e.query.countSql with
  | error f => rfl
  | ok sql =>
    simp only [ofFault, pure, EStateM.pure, Act.second_run]
    cases link.send sql s with
    | error f t => rfl
    | ok reply t =>
      simp only []
      cases Totals.countOf reply with
      | error f => rfl
      | ok total =>
        simp only [EStateM.pure, update_run]
        cases Totals.pageCount total e.query.pageSize with
        | error f => rfl
        | ok pages =>
          simp only [EStateM.pure, update_run]
          cases Totals.logLine e.query.qualifiedTable total pages <;> rfl

theorem turnTo_run (page : Number) :
    turnTo link page (e, s) =
      match { e.query with page := page }.pageSql e.dialect with
      | .error f => .error (.fault f) (e, s)
      | .ok sql => match link.page e.query.isJoined sql s with
        | .error f t => .error f (e, t)
        | .ok rows t =>
          .ok () ({ e with
            query := { e.query with page := page }
            sql := sql
            rows := rows
            page := some page }, t) := by
  simp only [turnTo, Act.bind_run, Act.get_run]
  cases { e.query with page := page }.pageSql e.dialect with
  | error f => rfl
  | ok sql =>
    simp only [ofFault, pure, EStateM.pure, fetch_run]
    cases link.page e.query.isJoined sql s <;> rfl

theorem goToPage_run (page : Number) :
    goToPage link page (e, s) =
      if e.isCurrent page ∨ e.isCurrent (e.target page) then .ok () (e, s)
      else turnTo link (e.target page) (e, s) := by
  simp only [goToPage, Act.bind_run, Act.get_run]
  cases e.isCurrent page <;> cases e.isCurrent (e.target page) <;> rfl

theorem start_run :
    start link (e, s) =
      match (execute link >>= fun _ => calculateTotals link) (e, s) with
      | .ok _ (e, t) => .ok () ({ e with page := some e.query.page }, t)
      | .error f t => match close link t with
        | .ok _ t => .error f t
        | .error g t => .error g t := by
  simp only [start, Act.bind_run, Act.rescue]
  cases execute link (e, s) with
  | error f t => simp only []; cases close link t <;> rfl
  | ok _ t =>
    simp only []
    cases calculateTotals link t with
    | ok _ t => rfl
    | error f t => simp only []; cases close link t <;> rfl

/-- Starting succeeds exactly when the first page and the totals are fetched. -/
theorem start_ok_iff (x : Engine × σ) :
    start link (e, s) = .ok () x ↔ ∃ t e' t', execute link (e, s) = .ok () t ∧
      calculateTotals link t = .ok () (e', t') ∧
      x = ({ e' with page := some e'.query.page }, t') := by
  rw [start_run, Act.bind_run]
  cases execute link (e, s) with
  | error f t => cases closed : close link t <;> simp [closed]
  | ok _ t =>
    cases counted : calculateTotals link t with
    | error f t' => cases closed : close link t' <;> simp [counted, closed]
    | ok _ t' =>
      obtain ⟨e', t'⟩ := t'
      simp [counted, eq_comm, and_assoc]

theorem start_ok {rows : List Row} {t t' : σ} {e' : Engine}
    (fetched : link.page e.query.isJoined e.sql s = .ok rows t)
    (counted : calculateTotals link ({ e with rows := rows }, t) = .ok () (e', t')) :
    start link (e, s) = .ok () ({ e' with page := some e'.query.page }, t') :=
  (start_ok_iff _ _ _ _).mpr
    ⟨_, e', t', by rw [execute_run, fetched], counted, rfl⟩

theorem prepare_chosen {registry : Registry} {installed : Bool} {settings : Settings}
    {given : Option Transport} {dialect : Option Dialect} {q : Query} {t : Transport}
    (chosen : given = some t ∨
      (given = none ∧ registry.transport installed q.mode settings = .ok t)) {sql : String}
    (statement : q.pageSql (dialect.getD (Dialect.ofName settings.sqlDialect)) = .ok sql) :
    prepare registry installed settings given dialect q =
      .ok ⟨⟨q, dialect.getD (Dialect.ofName settings.sqlDialect), given.isNone, sql, [], none, none,
        none⟩, t⟩ := by
  rcases chosen with rfl | ⟨rfl, made⟩
  · simp only [prepare, make, statement]
    rfl
  · simp only [prepare, make, statement, made]
    rfl

theorem prepare_unwritten {registry : Registry} {installed : Bool} {settings : Settings}
    {given : Option Transport} {dialect : Option Dialect} {q : Query} {t : Transport}
    (chosen : given = some t ∨
      (given = none ∧ registry.transport installed q.mode settings = .ok t)) {f : Fault}
    (unwritten : q.pageSql (dialect.getD (Dialect.ofName settings.sqlDialect)) = .error f) :
    prepare registry installed settings given dialect q = .error (.fault f) := by
  rcases chosen with rfl | ⟨rfl, made⟩
  · simp only [prepare, make, unwritten]
    rfl
  · simp only [prepare, make, unwritten, made]
    rfl

theorem create_ok {W : Type} {o : Outside W} {registry : Registry} {installed : Bool}
    {settings : Settings} {dialect : Option Dialect} {q : Query} {given : Option Transport}
    {x : Exchange W} {e : Engine} {s : Option Transport × Exchange W}
    (created : create o registry installed settings dialect q (given, x) = .ok e s) :
    ∃ prepared, prepare registry installed settings given dialect q = .ok prepared ∧
      start (linkTo o) (prepared.engine, (some prepared.transport, x)) = .ok () (e, s) := by
  unfold create at created
  split at created
  · cases created
  · rename_i prepared ready
    refine ⟨prepared, ready, ?_⟩
    split at created
    · rename_i run
      cases created
      exact run
    · cases created

theorem linkTo_custom {W : Type} (o : Outside W) (typeName mode sql : String) (x : Exchange W) :
    (linkTo o).send sql (some (.custom typeName mode), x) =
      match o.call (.deliver sql) x with
      | .ok reply y => .ok reply (some (.custom typeName mode), y)
      | .error f y => .error f (some (.custom typeName mode), y) := by
  simp only [linkTo, Act.variant, Transport.send, Act.bind_run, Act.get_run, Act.second_run]
  cases o.call (.deliver sql) x <;> rfl

end Engine
end PagedQuery
