import PagedQuery.Proofs.Engine.Record
import PagedQuery.Proofs.Query.Acceptance
import PagedQuery.Proofs.Sql.Statement

/-! The creation of an engine: what is sent, in which order, and what is closed when something
fails. The record of its link says so exactly, for every outcome of every statement. -/
namespace PagedQuery

namespace Act

variable {σ α : Type}

theorem noted_run (note : Except Failure α → Passage) (a : Act σ α) (s : σ)
    (record : List Passage) : ∃ outcome t,
      a.noted note (s, record) = settled outcome (t, record ++ [note outcome]) := by
  unfold noted
  cases a s with
  | ok x t => exact ⟨.ok x, t, rfl⟩
  | error f t => exact ⟨.error f, t, rfl⟩

end Act

namespace Engine

open Act (settled)

def rowsIn (joined : Bool) (outcome : Except Failure Value) : Except Failure (List Row) :=
  outcome >>= Row.ofReply joined

/-- The number of rows and of pages that the reply to a count statement tells, if both can be
logged. -/
def totalsOf (q : Query) (reply : Value) : Except Failure (Int × Int) :=
  match Totals.countOf reply with
  | .error f => .error (.fault f)
  | .ok total =>
    match Totals.pageCount total q.pageSize with
    | .error f => .error (.fault f)
    | .ok pages =>
      match Totals.logLine q.qualifiedTable total pages with
      | .error f => .error (.fault f)
      | .ok _ => .ok (total, pages)

def totalsIn (q : Query) (outcome : Except Failure Value) : Except Failure (Int × Int) :=
  outcome >>= totalsOf q

inductive Aftermath (owned : Bool) (f : Failure) : Failure → List Passage → Prop
  -- a transport that was given is left alone
  | kept (given : owned = false) : Aftermath owned f f []
  | closed (own : owned = true) : Aftermath owned f f [.closed (.ok ())]
  | closingFailed (own : owned = true) (g : Failure) : Aftermath owned f g [.closed (.error g)]

section Steps

variable {σ : Type} (link : Link σ) (e : Engine) (s : σ) (record : List Passage)

theorem execute_settled :
    (∃ reply rows t, Row.ofReply e.query.isJoined reply = .ok rows ∧
      execute link.recorded (e, (s, record)) =
        .ok () ({ e with rows := rows }, (t, record ++ [.sent e.sql (.ok reply)]))) ∨
    ∃ outcome f t, rowsIn e.query.isJoined outcome = .error f ∧
      execute link.recorded (e, (s, record)) =
        .error f (e, (t, record ++ [.sent e.sql outcome])) := by
  obtain ⟨outcome, t, sent⟩ := Act.noted_run (.sent e.sql) (link.send e.sql) s record
  simp only [execute_run, Link.page, Act.bind_run, Link.recorded, sent]
  cases outcome with
  | error f => exact .inr ⟨.error f, f, t, rfl, rfl⟩
  | ok reply =>
    simp only [settled, Act.ofExcept_run]
    cases read : Row.ofReply e.query.isJoined reply with
    | ok rows => exact .inl ⟨reply, rows, t, read, rfl⟩
    | error f => exact .inr ⟨.ok reply, f, t, read, rfl⟩

variable [Runtime]

inductive Course (q : Query) (d : Dialect) (owned : Bool) (sql : String) :
    Except Failure Engine → List Passage → Prop
  | noPage {outcome : Except Failure Value} {f g : Failure} {after : List Passage}
    (page : rowsIn q.isJoined outcome = .error f) (aftermath : Aftermath owned f g after) :
    Course q d owned sql (.error g) (.sent sql outcome :: after)
  | noCount {reply : Value} {rows : List Row} {counting : String} {outcome : Except Failure Value}
    {f g : Failure} {after : List Passage} (page : Row.ofReply q.isJoined reply = .ok rows)
    (bounded : q.isUnbounded = false) (statement : q.countSql = .ok counting)
    (count : totalsIn q outcome = .error f) (aftermath : Aftermath owned f g after) :
    Course q d owned sql (.error g)
      (.sent sql (.ok reply) :: .sent counting outcome :: after)
  | counted {reply count : Value} {rows : List Row} {counting : String} {total pages : Int}
    (page : Row.ofReply q.isJoined reply = .ok rows) (bounded : q.isUnbounded = false)
    (statement : q.countSql = .ok counting) (totals : totalsOf q count = .ok (total, pages)) :
    Course q d owned sql (.ok ⟨q, d, owned, sql, rows, some q.page, some pages, some total⟩)
      [.sent sql (.ok reply), .sent counting (.ok count)]
  | uncounted {reply : Value} {rows : List Row}
    (page : Row.ofReply q.isJoined reply = .ok rows) (unbounded : q.isUnbounded = true) :
    Course q d owned sql (.ok ⟨q, d, owned, sql, rows, some q.page, some 1, some rows.length⟩)
      [.sent sql (.ok reply)]

theorem calculateTotals_settled (bounded : e.query.isUnbounded = false) {counting : String}
    (statement : e.query.countSql = .ok counting) :
    (∃ reply total pages t, totalsOf e.query reply = .ok (total, pages) ∧
      calculateTotals link.recorded (e, (s, record)) =
        .ok () ({ e with total := some total, pages := some pages },
          (t, record ++ [.sent counting (.ok reply)]))) ∨
    ∃ outcome f e' t, totalsIn e.query outcome = .error f ∧
      e'.ownsTransport = e.ownsTransport ∧
      calculateTotals link.recorded (e, (s, record)) =
        .error f (e', (t, record ++ [.sent counting outcome])) := by
  obtain ⟨outcome, t, sent⟩ := Act.noted_run (.sent counting) (link.send counting) s record
  simp only [calculateTotals_run_bounded _ _ _ bounded, statement, Link.recorded, sent]
  cases outcome with
  | error f => exact .inr ⟨.error f, f, e, t, rfl, rfl, rfl⟩
  | ok reply =>
    simp only [settled]
    cases counted : Totals.countOf reply with
    | error f =>
      have totals : totalsOf e.query reply = .error (.fault f) := by
        simp only [totalsOf, counted]
      exact .inr ⟨.ok reply, .fault f, e, t, totals, rfl, rfl⟩
    | ok total =>
      simp only []
      cases paged : Totals.pageCount total e.query.pageSize with
      | error f =>
        have totals : totalsOf e.query reply = .error (.fault f) := by
          simp only [totalsOf, counted, paged]
        -- the total is kept although the pages could not be told
        exact .inr ⟨.ok reply, .fault f, { e with total := some total }, t, totals, rfl, rfl⟩
      | ok pages =>
        simp only []
        cases logged : Totals.logLine e.query.qualifiedTable total pages with
        | error f =>
          have totals : totalsOf e.query reply = .error (.fault f) := by
            simp only [totalsOf, counted, paged, logged]
          -- both are kept although they could not be logged
          exact .inr ⟨.ok reply, .fault f, { e with total := some total, pages := some pages }, t,
            totals, rfl, rfl⟩
        | ok line =>
          have totals : totalsOf e.query reply = .ok (total, pages) := by
            simp only [totalsOf, counted, paged, logged]
          exact .inl ⟨reply, total, pages, t, totals, rfl⟩

def launch (engine : Engine) : Act σ Engine := fun s =>
  match start link (engine, s) with
  | .ok _ (e, t) => .ok e t
  | .error f (_, t) => .error f t

theorem launch_forgets {result : Except Failure Engine} {t : σ × List Passage}
    (run : launch link.recorded e (s, record) = settled result t) :
    launch link e s = settled result t.1 := by
  have forgets := start_forgets link e s record
  unfold launch at run ⊢
  cases started : start link.recorded (e, (s, record)) with
  | ok _ x =>
    rw [started] at run forgets
    rw [forgets]
    cases result <;> cases run
    rfl
  | error f x =>
    rw [started] at run forgets
    rw [forgets]
    cases result <;> cases run
    rfl

theorem launch_failed {f : Failure} {e' : Engine} {t : σ} {noted : List Passage} {owned : Bool}
    (own : e'.ownsTransport = owned)
    (failed : (execute link.recorded >>= fun _ => calculateTotals link.recorded)
      (e, (s, record)) = .error f (e', (t, noted))) :
    ∃ g t' after, launch link.recorded e (s, record) = .error g (t', noted ++ after) ∧
      Aftermath owned f g after := by
  unfold launch
  rw [start_run, failed]
  simp only [close_run, own]
  cases owned with
  | false => exact ⟨f, t, [], by simp, .kept rfl⟩
  | true =>
    obtain ⟨outcome, t', closed⟩ := Act.noted_run .closed link.close t noted
    simp only [if_true, Link.recorded, closed]
    cases outcome with
    | ok _ => exact ⟨f, t', _, rfl, .closed rfl⟩
    | error g => exact ⟨g, t', _, rfl, .closingFailed rfl g⟩

theorem launch_course (q : Query) (d : Dialect) (owned : Bool) {sql : String}
    (statement : q.pageSql d = .ok sql) :
    ∃ result t passages,
      launch link.recorded ⟨q, d, owned, sql, [], none, none, none⟩ (s, record) =
        settled result (t, record ++ passages) ∧ Course q d owned sql result passages := by
  rcases execute_settled link ⟨q, d, owned, sql, [], none, none, none⟩ s record with
    ⟨reply, rows, t, read, fetched⟩ | ⟨outcome, f, t, failed, fetched⟩
  · cases unbounded : q.isUnbounded with
    | true =>
      have counted := calculateTotals_run_unbounded link.recorded
        ⟨q, d, owned, sql, rows, none, none, none⟩ (t, record ++ [.sent sql (.ok reply)]) unbounded
      refine ⟨.ok _, t, _, ?_, .uncounted read unbounded⟩
      simp only [launch, start_run, Act.bind_run, fetched, counted]
      rfl
    | false =>
      obtain ⟨counting, counts⟩ := Query.countSql_of_pageSql statement
      rcases calculateTotals_settled link ⟨q, d, owned, sql, rows, none, none, none⟩ t
          (record ++ [.sent sql (.ok reply)]) unbounded counts with
        ⟨count, total, pages, t', totals, counted⟩ | ⟨outcome, f, e', t', failed, own, counted⟩
      · refine ⟨.ok _, t', _, ?_, .counted read unbounded counts totals⟩
        simp only [launch, start_run, Act.bind_run, fetched, counted, List.append_assoc]
        rfl
      · have stopped : (execute link.recorded >>= fun _ => calculateTotals link.recorded)
            (⟨q, d, owned, sql, [], none, none, none⟩, (s, record)) =
            .error f (e', (t', record ++ [.sent sql (.ok reply)] ++ [.sent counting outcome])) := by
          simp only [Act.bind_run, fetched, counted]
        obtain ⟨g, t'', after, launched, aftermath⟩ := launch_failed link _ s record own stopped
        refine ⟨.error g, t'', _, ?_, .noCount read unbounded counts failed aftermath⟩
        rw [launched, List.append_assoc, List.append_assoc]
        rfl
  · have stopped : (execute link.recorded >>= fun _ => calculateTotals link.recorded)
        (⟨q, d, owned, sql, [], none, none, none⟩, (s, record)) =
        .error f (⟨q, d, owned, sql, [], none, none, none⟩,
          (t, record ++ [.sent sql outcome])) := by
      simp only [Act.bind_run, fetched]
    obtain ⟨g, t', after, launched, aftermath⟩ := launch_failed link _ s record rfl stopped
    refine ⟨.error g, t', _, ?_, .noPage failed aftermath⟩
    rw [launched, List.append_assoc]
    rfl

end Steps

section Creation

variable [Runtime] {W : Type} (o : Outside W) (registry : Registry) (installed : Bool)
  (settings : Except Failure Settings) (dialect : Option Dialect) (input : QueryInput)

/-- Creates an engine for a query that is still to be normalized. Settings are needed only after
that, and there may be none. -/
def createFrom : Act (Option Transport × Exchange W) Engine := do
  let q ← Act.ofExcept input.normalize
  let settings ← Act.ofExcept settings
  create o registry installed settings dialect q

/-- What comes before the first statement. -/
def plan (given : Option Transport) : Except Failure Prepared := do
  let q ← input.normalize
  let settings ← settings
  prepare registry installed settings given dialect q

theorem createFrom_run (given : Option Transport) (x : Exchange W) :
    createFrom o registry installed settings dialect input (given, x) =
      match plan registry installed settings dialect input given with
      | .error f => .error f (given, x)
      | .ok prepared => launch (linkTo o) prepared.engine (some prepared.transport, x) := by
  simp only [createFrom, Act.bind_run, Act.ofExcept_run, plan]
  cases input.normalize with
  | error f => rfl
  | ok q =>
    cases settings with
    | error f => rfl
    | ok settings =>
      simp only [settled, create, bind, Except.bind]
      cases prepare registry installed settings given dialect q with
      | error f => rfl
      | ok prepared =>
        simp only [launch]
        cases start (linkTo o) (prepared.engine, (some prepared.transport, x)) <;> rfl

def createRecorded : Act ((Option Transport × Exchange W) × List Passage) Engine := fun s =>
  match plan registry installed settings dialect input s.1.1 with
  | .error f => .error f s
  | .ok prepared =>
    launch (linkTo o).recorded prepared.engine ((some prepared.transport, s.1.2), s.2)

theorem createRecorded_run (given : Option Transport) (x : Exchange W) (record : List Passage) :
    createRecorded o registry installed settings dialect input ((given, x), record) =
      match plan registry installed settings dialect input given with
      | .error f => .error f ((given, x), record)
      | .ok prepared =>
        launch (linkTo o).recorded prepared.engine ((some prepared.transport, x), record) := rfl

theorem createRecorded_forgets {given : Option Transport} {x : Exchange W}
    {record : List Passage} {result : Except Failure Engine}
    {t : (Option Transport × Exchange W) × List Passage}
    (run : createRecorded o registry installed settings dialect input ((given, x), record) =
      settled result t) :
    createFrom o registry installed settings dialect input (given, x) = settled result t.1 := by
  rw [createFrom_run]
  rw [createRecorded_run] at run
  cases planned : plan registry installed settings dialect input given with
  | error f =>
    rw [planned] at run
    cases result <;> cases run
    rfl
  | ok prepared =>
    rw [planned] at run
    exact launch_forgets _ _ _ _ run

theorem plan_refused {f : Failure} (refused : input.normalize = .error f)
    (given : Option Transport) :
    plan registry installed settings dialect input given = .error f := by
  simp only [plan, refused]
  rfl

theorem refused_written {f : Failure} (refused : input.normalize = .error f) :
    ∃ v, input = .written v ∧ (f.IsConfig ∨ f.Unnamed v) := by
  cases input with
  | written v =>
    have decided := Query.normalize_decides v
    rw [show Query.normalize v = .error f from refused] at decided
    exact ⟨v, rfl, decided.2⟩
  | read q => cases refused

theorem plan_unregistered {q : Query} {chosen : Settings} (accepted : input.normalize = .ok q)
    (known : settings = .ok chosen)
    (unregistered : Entries.find? (Registry.modeOf q.mode chosen) registry = none) :
    ∃ f, plan registry installed settings dialect input none = .error f ∧ f.IsConfig := by
  simp only [plan, accepted, known, bind, Except.bind, prepare, Registry.transport, unregistered]
  exact ⟨_, rfl, Failure.queryConfig_isConfig _⟩

theorem plan_chosen {q : Query} {chosen : Settings} (accepted : input.normalize = .ok q)
    (known : settings = .ok chosen) {given : Option Transport} {t : Transport}
    (transport : given = some t ∨
      (given = none ∧ registry.transport installed q.mode chosen = .ok t)) {sql : String}
    (statement : q.pageSql (dialect.getD (Dialect.ofName chosen.sqlDialect)) = .ok sql) :
    plan registry installed settings dialect input given =
      .ok ⟨⟨q, dialect.getD (Dialect.ofName chosen.sqlDialect), given.isNone, sql, [], none, none,
        none⟩, t⟩ := by
  simp only [plan, accepted, known]
  exact prepare_chosen transport statement

theorem plan_unwritten {q : Query} {chosen : Settings} (accepted : input.normalize = .ok q)
    (known : settings = .ok chosen) {given : Option Transport} {t : Transport}
    (transport : given = some t ∨
      (given = none ∧ registry.transport installed q.mode chosen = .ok t)) {f : Fault}
    (unwritten : q.pageSql (dialect.getD (Dialect.ofName chosen.sqlDialect)) = .error f) :
    plan registry installed settings dialect input given = .error (.fault f) := by
  simp only [plan, accepted, known, bind, Except.bind]
  exact prepare_unwritten transport unwritten

end Creation

def allTracks : Value := .object [("table", .string "tracks")]

def recordingOnly : Registry := [("recording", .custom "Recording" "recording")]

def recordingSettings : Settings := { (default : Settings) with mode := "Recording" }

def lost : Failure := .ofTransport .query "recording" "connection lost" none

def lostCount : Exchange Script := ⟨Script.ofReplies [{}, { failure := some lost }], []⟩

end Engine

namespace Session

def AtHand (s : Session) (fields : Option Fields) (settings : Settings) : Prop :=
  match fields with
  | some given => Settings.load given s.environment "" = .ok settings
  | none => s.cached = some settings

def withoutEngine (s : Session) : Session := { s with engine := none, attachment := .own none }

theorem settings_run {fields : Option Fields} {s : Session} {settings : Settings}
    (ready : s.AtHand fields settings) : ∃ given,
      fields.mapM givenSettings s.withoutEngine = .ok given s.withoutEngine ∧
      (match given with
        | some settings => pure settings
        | none => currentSettings : Run Settings) s.withoutEngine =
        .ok settings s.withoutEngine := by
  cases fields with
  | some given =>
    have loaded : Settings.load given s.withoutEngine.environment "" = .ok settings := ready
    refine ⟨some settings, ?_, rfl⟩
    show (some <$> givenSettings given) s.withoutEngine = .ok (some settings) s.withoutEngine
    simp only [givenSettings, map_eq_pure_bind, Act.bind_run, Act.get_run, loaded]
    rfl
  | none =>
    have known : s.withoutEngine.cached = some settings := ready
    refine ⟨none, rfl, ?_⟩
    simp only [currentSettings, Act.bind_run, Act.get_run, known]
    rfl

variable [Runtime]

theorem create_run {source : QuerySource} {fields : Option Fields} {s : Session}
    {input : QueryInput} {settings : Settings} (understood : source.input = .ok input)
    (ready : s.AtHand fields settings) (dialect : Option String) (inject : Bool) :
    create source fields dialect inject s =
      (Act.ofExcept input.normalize >>= createWith settings (dialect.map Dialect.ofName) inject)
        s.withoutEngine := by
  have dropped : dropEngine s = .ok () s.withoutEngine := rfl
  obtain ⟨given, read, chosen⟩ := settings_run ready
  simp only [create, Act.bind_run, dropped, understood, read, Act.ofExcept_run, Act.settled]
  cases input.normalize with
  | error f => rfl
  | ok q =>
    cases given with
    | some settings' =>
      cases chosen
      rfl
    | none => simp only [Act.bind_run, chosen]

theorem createWith_run (settings : Settings) (dialect : Option Dialect) (inject : Bool) (q : Query)
    (s : Session) :
    match Engine.create scripted s.registry s.duckdbInstalled settings dialect q
        (if inject then s.transport else none, s.exchange) with
    | .ok e (t, x) => ∃ s', createWith settings dialect inject q s = .ok .done s' ∧
        s'.engine = some e ∧ s'.engineTransport = t ∧ s'.exchange = x
    | .error f (_, x) => ∃ s', createWith settings dialect inject q s = .error f s' ∧
        s'.engine = s.engine ∧ s'.exchange = x := by
  have same : (if inject && s.transport.isSome then s.transport else none) =
      if inject then s.transport else none := by
    cases inject <;> cases s.transport <;> rfl
  unfold createWith
  simp only [same]
  cases Engine.create scripted s.registry s.duckdbInstalled settings dialect q
      (if inject then s.transport else none, s.exchange) with
  | error f t => exact ⟨_, rfl, rfl, rfl⟩
  | ok e t =>
    refine ⟨_, rfl, rfl, ?_, rfl⟩
    cases inject && s.transport.isSome <;> rfl

/-- A session creates its engine by `createFrom`, and keeps it exactly if that succeeds. -/
theorem create_createFrom {source : QuerySource} {fields : Option Fields} {s : Session}
    {input : QueryInput} {settings : Settings} (understood : source.input = .ok input)
    (ready : s.AtHand fields settings) (dialect : Option String) (inject : Bool) :
    match Engine.createFrom scripted s.registry s.duckdbInstalled (.ok settings)
        (dialect.map Dialect.ofName) input (if inject then s.transport else none, s.exchange) with
    | .ok e (t, x) => ∃ s', create source fields dialect inject s = .ok .done s' ∧
        s'.engine = some e ∧ s'.engineTransport = t ∧ s'.exchange = x
    | .error f (_, x) => ∃ s', create source fields dialect inject s = .error f s' ∧
        s'.engine = none ∧ s'.exchange = x := by
  rw [create_run understood ready dialect inject]
  simp only [Engine.createFrom, Act.bind_run, Act.ofExcept_run]
  cases input.normalize with
  | error f => exact ⟨_, rfl, rfl, rfl⟩
  | ok q => exact createWith_run settings (dialect.map Dialect.ofName) inject q s.withoutEngine

end Session
end PagedQuery
