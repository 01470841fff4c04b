import PagedQuery.Proofs.Transport.Turns

/-! What a transport asks of the world outside and what it makes of the answers: for every
operation and every answer, the calls in their order, the result, and the transport that is left.
-/
namespace PagedQuery

namespace Ipc

inductive Asked (t : Ipc) (sql : String) : Except Failure Value → List Turn → Prop
  | undialed (f : Failure) : Asked t sql (.error f) [⟨.dial t.address t.authkey, .error f⟩]
  | unposted (f : Failure) (closing : Except Failure Unit) :
    Asked t sql (closing >>= fun _ => .error f)
      [⟨.dial t.address t.authkey, .ok ()⟩, ⟨.post t.channel sql, .error f⟩, ⟨.hangUp, closing⟩]
  | posted (reply : Except Failure Value) (closing : Except Failure Unit) :
    Asked t sql (closing >>= fun _ => reply)
      [⟨.dial t.address t.authkey, .ok ()⟩, ⟨.post t.channel sql, .ok ()⟩, ⟨.receive, reply⟩,
        ⟨.hangUp, closing⟩]

theorem ask_settles {W : Type} (o : Outside W) (t : Ipc) (sql : String) (x : Exchange W) :
    ∃ reply turns y, o.Settles id (ask o t sql) x reply turns y ∧ Asked t sql reply turns := by
  obtain ⟨dialed, y, dial⟩ := Outside.Settles.call o (.dial t.address t.authkey) x
  cases dialed with
  | error f => exact ⟨_, _, y, dial.bind_error _, .undialed f⟩
  | ok _ =>
    obtain ⟨posted, z, post⟩ := Outside.Settles.call o (.post t.channel sql) y
    cases posted with
    | error f =>
      obtain ⟨closing, u, left⟩ := Outside.Settles.call o .hangUp z
      exact ⟨_, _, u, dial.bind ((post.bind_error _).always left), .unposted f closing⟩
    | ok _ =>
      obtain ⟨reply, v, received⟩ := Outside.Settles.call o .receive z
      obtain ⟨closing, u, left⟩ := Outside.Settles.call o .hangUp v
      exact ⟨_, _, u, dial.bind ((post.bind received).always left), .posted reply closing⟩

end Ipc

namespace Sqlite

inductive Executed (sql : String) : Except Failure Value → List Turn → Prop
  | refused (f : Failure) : Executed sql (.error f) [⟨.runCursor sql, .error f⟩]
  | rowless (columns : Columns) (bare : Table.columnNames columns = []) :
    Executed sql (.ok (.list [])) [⟨.runCursor sql, .ok columns⟩]
  | fetched (columns : Columns) (named : Table.columnNames columns ≠ [])
    (data : Except Failure (List (List Value))) :
    Executed sql (data.map (Table.rowObjects (Table.columnNames columns)))
      [⟨.runCursor sql, .ok columns⟩, ⟨.fetchCursor, data⟩]

theorem Executed.apart {sql : String} {result : Except Failure Value} {turns : List Turn}
    (executed : Executed sql result turns) :
    ∀ u ∈ turns, u.call ≠ .openCursor ∧ u.call ≠ .closeCursor := by
  cases executed <;> simp

inductive Ran (sql : String) : Except Failure Value → List Turn → Prop
  | noCursor (f : Failure) : Ran sql (.error (queryFailure f)) [⟨.openCursor, .error f⟩]
  | ran {result : Except Failure Value} {turns : List Turn} (executed : Executed sql result turns)
    (closing : Except Failure Unit) :
    Ran sql (closing >>= fun _ => result.mapError queryFailure)
      (⟨.openCursor, .ok ()⟩ :: (turns ++ [⟨.closeCursor, closing⟩]))

variable {W : Type} (o : Outside W)

theorem runCursor_settles (sql : String) (x : Exchange W) :
    ∃ result turns y, o.Settles id (runCursor o sql) x result turns y ∧
      Executed sql result turns := by
  obtain ⟨answer, y, run⟩ := Outside.Settles.call o (.runCursor sql) x
  cases answer with
  | error f => exact ⟨_, _, y, run.bind_error _, .refused f⟩
  | ok columns =>
    by_cases bare : Table.columnNames columns = []
    · refine ⟨_, _, y, run.bind ?_, .rowless columns bare⟩
      simp only [bare, List.isEmpty_nil, if_true]
      exact .ofExcept o id (.ok _) y
    · obtain ⟨data, z, fetch⟩ := Outside.Settles.call o .fetchCursor y
      refine ⟨_, _, z, run.bind ?_, .fetched columns bare data⟩
      simp only [List.isEmpty_iff, bare, if_false]
      exact fetch.mapped _

theorem run_settles (sql : String) (x : Exchange W) :
    ∃ result turns y, o.Settles id (run o sql) x result turns y ∧ Ran sql result turns := by
  obtain ⟨pointed, y, cursor⟩ := Outside.Settles.call o .openCursor x
  cases pointed with
  | error f => exact ⟨_, _, y, (cursor.reported queryFailure).bind_error _, .noCursor f⟩
  | ok _ =>
    obtain ⟨result, turns, z, done, executed⟩ := runCursor_settles o sql y
    obtain ⟨closing, u, left⟩ := Outside.Settles.call o .closeCursor z
    exact ⟨_, _, u, (cursor.reported queryFailure).bind ((done.reported queryFailure).always left),
      .ran executed closing⟩

end Sqlite

namespace Duckdb

inductive Ran (sql : String) : Except Failure Value → List Turn → Prop
  | refused (f : Failure) : Ran sql (.error f) [⟨.runDuckdb sql, .error f⟩]
  | fetched (columns : Columns) (data : Except Failure (List (List Value))) :
    Ran sql (data.map (Table.rowObjects (Table.columnNames columns)))
      [⟨.runDuckdb sql, .ok columns⟩, ⟨.fetchDuckdb, data⟩]

theorem run_settles {W : Type} (o : Outside W) (sql : String) (x : Exchange W) :
    ∃ result turns y, o.Settles id (run o sql) x result turns y ∧ Ran sql result turns := by
  obtain ⟨answer, y, ran⟩ := Outside.Settles.call o (.runDuckdb sql) x
  cases answer with
  | error f => exact ⟨_, _, y, ran.bind_error _, .refused f⟩
  | ok columns =>
    obtain ⟨data, z, fetch⟩ := Outside.Settles.call o .fetchDuckdb y
    exact ⟨_, _, z, ran.bind (fetch.mapped _), .fetched columns data⟩

end Duckdb

namespace Http

def delivery (h : Http) (sql : String) : Call := .request h.method h.address sql h.headers

def received [Runtime] (h : Http) (answer : Except Failure Response) : Except Failure Value := do
  let response ← answer.mapError h.requestFailure
  let response ← response.decompressed.mapError h.requestFailure
  h.rows response

end Http

def Call.connects : Call → Bool
  | .openClient .. | .openSqlite .. | .openDuckdb .. => true
  | _ => false

def Call.disconnects : Call → Bool
  | .closeClient | .closeSqlite | .closeDuckdb => true
  | _ => false

theorem Call.connects_apart {c : Call} (connects : c.connects = true) :
    c.disconnects = false ∧ c ≠ .openCursor ∧ c ≠ .closeCursor := by
  cases c <;> simp_all [Call.connects, Call.disconnects]

theorem Call.disconnects_apart {c : Call} (disconnects : c.disconnects = true) :
    c.connects = false ∧ c ≠ .openCursor ∧ c ≠ .closeCursor := by
  cases c <;> simp_all [Call.connects, Call.disconnects]

namespace Transport

/-- The call that opens what a transport keeps, while it has nothing. -/
def opening? : Transport → Option Call
  | .http h => if h.client = .none then some (.openClient h.timeout h.verify) else none
  | .sqlite t =>
    if !t.connected then some (.openSqlite t.source.1 t.source.2 t.timeout) else none
  | .duckdb t => if !t.connected then some (.openDuckdb t.database t.readOnly) else none
  | _ => none

inductive Lacks : Transport → Call → Prop
  | client {h : Http} (absent : h.client = .none) :
    Lacks (.http h) (.openClient h.timeout h.verify)
  | sqlite {t : Sqlite} (absent : t.connected = false) :
    Lacks (.sqlite t) (.openSqlite t.source.1 t.source.2 t.timeout)
  | duckdb {t : Duckdb} (absent : t.connected = false) :
    Lacks (.duckdb t) (.openDuckdb t.database t.readOnly)

theorem lacks_of_opening? {t : Transport} {c : Call} (due : t.opening? = some c) : Lacks t c := by
  cases t with
  | http h =>
    obtain ⟨absent, same⟩ := Option.ite_none_right_eq_some.mp due
    cases same
    exact .client absent
  | sqlite t =>
    obtain ⟨absent, same⟩ := Option.ite_none_right_eq_some.mp due
    cases same
    exact .sqlite (Bool.not_eq_true' _ |>.mp absent)
  | duckdb t =>
    obtain ⟨absent, same⟩ := Option.ite_none_right_eq_some.mp due
    cases same
    exact .duckdb (Bool.not_eq_true' _ |>.mp absent)
  | _ => cases due

theorem Lacks.connects {t : Transport} {c : Call} (lacks : Lacks t c) : c.connects = true := by
  cases lacks <;> rfl

def openFailure : Transport → Failure → Failure
  | .sqlite _ => Sqlite.connectFailure
  | .duckdb _ => Duckdb.connectFailure
  | _ => id

def ready : Transport → Transport
  | .http h => .http { h with client := .opened }
  | .sqlite t => .sqlite { t with connected := true }
  | .duckdb t => .duckdb { t with connected := true }
  | t => t

/-- The call that gives back what a transport keeps, or tells a transport of the caller that it
is done with. -/
def closing? : Transport → Option Call
  | .custom .. => some .release
  | .http h => if h.client = .opened then some .closeClient else none
  | .sqlite t => if t.connected then some .closeSqlite else none
  | .duckdb t => if t.connected then some .closeDuckdb else none
  | _ => none

inductive Owes : Transport → Call → Prop
  | word (typeName mode : String) : Owes (.custom typeName mode) .release
  | client {h : Http} (opened : h.client = .opened) : Owes (.http h) .closeClient
  | sqlite {t : Sqlite} (connected : t.connected = true) : Owes (.sqlite t) .closeSqlite
  | duckdb {t : Duckdb} (connected : t.connected = true) : Owes (.duckdb t) .closeDuckdb

theorem owes_of_closing? {t : Transport} {c : Call} (due : t.closing? = some c) : Owes t c := by
  cases t with
  | custom typeName mode =>
    cases due
    exact .word typeName mode
  | http h =>
    obtain ⟨opened, same⟩ := Option.ite_none_right_eq_some.mp due
    cases same
    exact .client opened
  | sqlite t =>
    obtain ⟨connected, same⟩ := Option.ite_none_right_eq_some.mp due
    cases same
    exact .sqlite connected
  | duckdb t =>
    obtain ⟨connected, same⟩ := Option.ite_none_right_eq_some.mp due
    cases same
    exact .duckdb connected
  | _ => cases due

def idle : Transport → Transport
  | .http h => .http { h with client := .none }
  | .sqlite t => .sqlite { t with connected := false }
  | .duckdb t => .duckdb { t with connected := false }
  | t => t

inductive Attempt (t : Transport) (call? : Option Call) (report : Failure → Failure)
    (after : Transport) : Except Failure Unit → Transport → List Turn → Prop
  | needless (nothing : call? = none) : Attempt t call? report after (.ok ()) t []
  | done {c : Call} (due : call? = some c) (answer : c.Answer) :
    Attempt t call? report after (.ok ()) after [⟨c, .ok answer⟩]
  | failed {c : Call} (due : call? = some c) (f : Failure) :
    Attempt t call? report after (.error (report f)) t [⟨c, .error f⟩]

section Attempts

variable {t t' after : Transport} {call? : Option Call} {report : Failure → Failure}
  {result : Except Failure Unit} {turns : List Turn}

theorem Attempt.of_none (attempt : Attempt t call? report after result t' turns)
    (nothing : call? = none) : result = .ok () ∧ t' = t ∧ turns = [] := by
  cases attempt with
  | needless => exact ⟨rfl, rfl, rfl⟩
  | done due answer =>
    rw [nothing] at due
    cases due
  | failed due f =>
    rw [nothing] at due
    cases due

theorem Attempt.of_some (attempt : Attempt t call? report after result t' turns)
    (needed : call? ≠ none) : ∃ u : Turn, call? = some u.call ∧ turns = [u] ∧
      ((u.succeeded = true ∧ result = .ok () ∧ t' = after) ∨
        (u.succeeded = false ∧ (∃ f, result = .error f) ∧ t' = t)) := by
  cases attempt with
  | needless nothing => exact absurd nothing needed
  | done due answer => exact ⟨_, due, rfl, .inl ⟨rfl, rfl, rfl⟩⟩
  | failed due f => exact ⟨_, due, rfl, .inr ⟨rfl, ⟨_, rfl⟩, rfl⟩⟩

end Attempts

abbrev Opening (t : Transport) := Attempt t t.opening? t.openFailure t.ready

abbrev Closing (t : Transport) := Attempt t t.closing? id t.idle

section Programs

variable {W : Type} (o : Outside W)

/-- A call that is made if there is need of it, after which the transport is marked. -/
theorem attempt_settles {τ : Type} (mk : τ → Transport) (mark : τ → τ) (needed : Prop)
    [Decidable needed] {report : Failure → Failure} {t : τ} {x y : Exchange W} {c : Call}
    {a : Act (τ × Exchange W) c.Answer} {answer : Except Failure c.Answer}
    (asked : o.Settles Prod.snd a (t, x) (answer.mapError report) [⟨c, answer⟩] (t, y)) :
    ∃ result t' turns z, o.Settles Prod.snd
      (if needed then a >>= fun _ => modify fun (t, x) => (mark t, x) else pure ())
      (t, x) result turns (t', z) ∧
      Attempt (mk t) (if needed then some c else none) report (mk (mark t)) result (mk t')
        turns := by
  -- `asked` tells what the call would come to, also where it is not made
  by_cases need : needed
  · simp only [need, if_true]
    cases answer with
    | error f => exact ⟨_, t, _, y, asked.bind_error _, .failed rfl f⟩
    | ok answer => exact ⟨_, mark t, _, y, asked.bind (.modified o mark t y), .done rfl answer⟩
  · simp only [need, if_false]
    exact ⟨_, t, [], x, .ofExcept o Prod.snd (.ok ()) (t, x), .needless rfl⟩

theorem sqlite_connect_settles (t : Sqlite) (x : Exchange W) :
    ∃ result t' turns y, o.Settles Prod.snd (Sqlite.connect o) (t, x) result turns (t', y) ∧
      Opening (.sqlite t) result (.sqlite t') turns := by
  obtain ⟨answer, y, asked⟩ :=
    Outside.Settles.call o (.openSqlite t.source.1 t.source.2 t.timeout) x
  obtain ⟨result, t', turns, z, attempt, opening⟩ :=
    attempt_settles o .sqlite (fun t => { t with connected := true }) (!t.connected)
      ((asked.second t).reported Sqlite.connectFailure)
  exact ⟨result, t', turns, z, .read attempt, opening⟩

theorem duckdb_connect_settles (t : Duckdb) (x : Exchange W) :
    ∃ result t' turns y, o.Settles Prod.snd (Duckdb.connect o) (t, x) result turns (t', y) ∧
      Opening (.duckdb t) result (.duckdb t') turns := by
  obtain ⟨answer, y, asked⟩ := Outside.Settles.call o (.openDuckdb t.database t.readOnly) x
  obtain ⟨result, t', turns, z, attempt, opening⟩ :=
    attempt_settles o .duckdb (fun t => { t with connected := true }) (!t.connected)
      ((asked.second t).reported Duckdb.connectFailure)
  exact ⟨result, t', turns, z, .read attempt, opening⟩

theorem sqlite_close_settles (t : Sqlite) (x : Exchange W) :
    ∃ result t' turns y, o.Settles Prod.snd (Sqlite.close o) (t, x) result turns (t', y) ∧
      Closing (.sqlite t) result (.sqlite t') turns := by
  obtain ⟨answer, y, asked⟩ := Outside.Settles.call o .closeSqlite x
  obtain ⟨result, t', turns, z, attempt, closing⟩ :=
    attempt_settles o .sqlite (fun t => { t with connected := false }) t.connected
      (asked.second t).unreported
  exact ⟨result, t', turns, z, .read attempt, closing⟩

theorem duckdb_close_settles (t : Duckdb) (x : Exchange W) :
    ∃ result t' turns y, o.Settles Prod.snd (Duckdb.close o) (t, x) result turns (t', y) ∧
      Closing (.duckdb t) result (.duckdb t') turns := by
  obtain ⟨answer, y, asked⟩ := Outside.Settles.call o .closeDuckdb x
  obtain ⟨result, t', turns, z, attempt, closing⟩ :=
    attempt_settles o .duckdb (fun t => { t with connected := false }) t.connected
      (asked.second t).unreported
  exact ⟨result, t', turns, z, .read attempt, closing⟩

theorem http_close_settles (h : Http) (x : Exchange W) :
    ∃ result h' turns y, o.Settles Prod.snd (Http.close o) (h, x) result turns (h', y) ∧
      Closing (.http h) result (.http h') turns := by
  obtain ⟨answer, y, asked⟩ := Outside.Settles.call o .closeClient x
  obtain ⟨result, h', turns, z, attempt, closing⟩ :=
    attempt_settles o .http (fun h => { h with client := .none }) (h.client = .opened)
      (asked.second h).unreported
  exact ⟨result, h', turns, z, .read attempt, closing⟩

theorem close_settles (t : Transport) (x : Exchange W) :
    ∃ result t' turns y, o.Settles Prod.snd (close o) (t, x) result turns (t', y) ∧
      Closing t result t' turns := by
  have unchanged (t : Transport) := Outside.Settles.ofExcept o Prod.snd (.ok ()) (t, x)
  cases t with
  | custom typeName mode =>
    obtain ⟨answer, y, asked⟩ := Outside.Settles.call o .release x
    refine ⟨answer, _, _, y, .read (asked.second _), ?_⟩
    cases answer with
    | error f => exact .failed rfl f
    | ok answer => exact .done rfl answer
  | function => exact ⟨_, _, [], x, .read (unchanged _), .needless rfl⟩
  | ipc t => exact ⟨_, _, [], x, .read (unchanged _), .needless rfl⟩
  | http h =>
    obtain ⟨result, h', turns, y, left, closing⟩ := http_close_settles o h x
    exact ⟨result, _, turns, y, .read (left.variant _ _), closing⟩
  | sqlite t =>
    obtain ⟨result, t', turns, y, left, closing⟩ := sqlite_close_settles o t x
    exact ⟨result, _, turns, y, .read (left.variant _ _), closing⟩
  | duckdb t =>
    obtain ⟨result, t', turns, y, left, closing⟩ := duckdb_close_settles o t x
    exact ⟨result, _, turns, y, .read (left.variant _ _), closing⟩

def isDatabase : Transport → Bool
  | .sqlite _ | .duckdb _ => true
  | _ => false

theorem connect_settles (t : Transport) (x : Exchange W) :
    ∃ result t' turns y, o.Settles Prod.snd (connect o) (t, x) result turns (t', y) ∧
      if t.isDatabase then Opening t result t' turns
      else result = .error (.fault .missingAttribute) ∧ t' = t ∧ turns = [] := by
  have unchanged (t : Transport) := Outside.Settles.ofExcept o Prod.snd
    (.error (.fault .missingAttribute) : Except Failure Unit) (t, x)
  cases t with
  | sqlite t =>
    obtain ⟨result, t', turns, y, connected, opening⟩ := sqlite_connect_settles o t x
    exact ⟨result, _, turns, y, .read (connected.variant _ _), opening⟩
  | duckdb t =>
    obtain ⟨result, t', turns, y, connected, opening⟩ := duckdb_connect_settles o t x
    exact ⟨result, _, turns, y, .read (connected.variant _ _), opening⟩
  | _ => exact ⟨_, _, [], x, .read (unchanged _), rfl, rfl, rfl⟩

end Programs

variable [Runtime]

inductive Talk (sql : String) : Transport → Except Failure Value → List Turn → Prop
  | custom (typeName mode : String) (answer : Except Failure Value) :
    Talk sql (.custom typeName mode) answer [⟨.deliver sql, answer⟩]
  | function (answer : Except Failure Value) :
    Talk sql .function (answer >>= fun rows => rows.listed.map .list) [⟨.deliver sql, answer⟩]
  | http (h : Http) (answer : Except Failure Response) :
    Talk sql (.http h) (h.received answer) [⟨h.delivery sql, answer⟩]
  | ipc {t : Ipc} {reply : Except Failure Value} {turns : List Turn}
    (asked : Ipc.Asked t sql reply turns) :
    Talk sql (.ipc t) (reply.mapError t.askFailure >>= Ipc.rows) turns
  | sqlite (t : Sqlite) {result : Except Failure Value} {turns : List Turn}
    (ran : Sqlite.Ran sql result turns) : Talk sql (.sqlite t) result turns
  | duckdb (t : Duckdb) {result : Except Failure Value} {turns : List Turn}
    (ran : Duckdb.Ran sql result turns) :
    Talk sql (.duckdb t) (result.mapError Duckdb.queryFailure) turns

theorem Talk.apart {sql : String} {t : Transport} {result : Except Failure Value}
    {turns : List Turn} (talk : Talk sql t result turns) :
    ∀ u ∈ turns, u.call.connects = false ∧ u.call.disconnects = false := by
  cases talk with
  | custom | function | http => simp [Call.connects, Call.disconnects, Http.delivery]
  | ipc asked => cases asked <;> simp [Call.connects, Call.disconnects]
  | sqlite t ran =>
    cases ran with
    | noCursor => simp [Call.connects, Call.disconnects]
    | ran executed => cases executed <;> simp [Call.connects, Call.disconnects]
  | duckdb t ran => cases ran <;> simp [Call.connects, Call.disconnects]

inductive Course (t : Transport) (sql : String) :
    Except Failure Value → Transport → List Turn → Prop
  | unopened {f : Failure} {t' : Transport} {turns : List Turn}
    (opening : Opening t (.error f) t' turns) : Course t sql (.error f) t' turns
  | talked {result : Except Failure Value} {t' : Transport} {first turns : List Turn}
    (opening : Opening t (.ok ()) t' first) (talk : Talk sql t result turns) :
    Course t sql result t' (first ++ turns)

section Statements

variable {W : Type} (o : Outside W)

theorem sqlite_send_settles (t : Sqlite) (sql : String) (x : Exchange W) :
    ∃ result t' turns y, o.Settles Prod.snd (Sqlite.send o sql) (t, x) result turns (t', y) ∧
      Course (.sqlite t) sql result (.sqlite t') turns := by
  obtain ⟨opened, t', first, y, connected, opening⟩ := sqlite_connect_settles o t x
  cases opened with
  | error f => exact ⟨_, t', first, y, connected.bind_error _, .unopened opening⟩
  | ok _ =>
    obtain ⟨result, turns, z, done, ran⟩ := Sqlite.run_settles o sql y
    exact ⟨_, t', _, z, connected.bind (done.second t'), .talked opening (.sqlite t ran)⟩

theorem duckdb_send_settles (t : Duckdb) (sql : String) (x : Exchange W) :
    ∃ result t' turns y, o.Settles Prod.snd (Duckdb.send o sql) (t, x) result turns (t', y) ∧
      Course (.duckdb t) sql result (.duckdb t') turns := by
  obtain ⟨opened, t', first, y, connected, opening⟩ := duckdb_connect_settles o t x
  cases opened with
  | error f => exact ⟨_, t', first, y, connected.bind_error _, .unopened opening⟩
  | ok _ =>
    obtain ⟨result, turns, z, done, ran⟩ := Duckdb.run_settles o sql y
    have reported := (done.second t').reported Duckdb.queryFailure
    exact ⟨_, t', _, z, connected.bind reported, .talked opening (.duckdb t ran)⟩

theorem ipc_send_settles (t : Ipc) (sql : String) (x : Exchange W) :
    ∃ result turns y, o.Settles Prod.snd (Ipc.send o sql) (t, x) result turns (t, y) ∧
      Course (.ipc t) sql result (.ipc t) turns := by
  obtain ⟨reply, turns, y, asking, asked⟩ := Ipc.ask_settles o t sql x
  refine ⟨_, turns, y, .read ?_, .talked (.needless rfl) (.ipc asked)⟩
  exact ((asking.second t).reported t.askFailure).decoded Ipc.rows

/-- What follows when there is a client: `h` is the transport as it was before. -/
theorem http_request_settles (h t : Http) (sql : String) (x : Exchange W) :
    ∃ answer y, o.Settles Prod.snd (do
      let received ← (Act.second (o.call (h.delivery sql))).rescue
        fun f => throw (h.requestFailure f)
      let response ← Act.ofExcept (received.decompressed.mapError h.requestFailure)
      Act.ofExcept (h.rows response)) (t, x) (h.received answer) [⟨h.delivery sql, answer⟩]
      (t, y) := by
  obtain ⟨answer, y, asked⟩ := Outside.Settles.call o (h.delivery sql) x
  have request := (asked.second t).reported h.requestFailure
  refine ⟨answer, y, ?_⟩
  cases answer with
  | error f => exact request.bind_error _
  | ok response =>
    have decoded := (Outside.Settles.ofExcept o Prod.snd
      (response.decompressed.mapError h.requestFailure) (t, y)).decoded h.rows
    exact request.bind decoded

theorem http_send_settles (h : Http) (sql : String) (x : Exchange W) :
    ∃ result h' turns y, o.Settles Prod.snd (Http.send o sql) (h, x) result turns (h', y) ∧
      Course (.http h) sql result (.http h') turns := by
  by_cases absent : h.client = .none
  · have due : (Transport.http h).opening? = some (.openClient h.timeout h.verify) := by
      simp [opening?, absent]
    obtain ⟨answer, y, asked⟩ := Outside.Settles.call o (.openClient h.timeout h.verify) x
    cases answer with
    | error f =>
      refine ⟨_, h, _, y, .read ?_, .unopened (.failed due f)⟩
      simp only [absent, if_true]
      exact (asked.second h).bind_error _
    | ok answer =>
      obtain ⟨reply, z, request⟩ := http_request_settles o h { h with client := .opened } sql y
      refine ⟨_, { h with client := .opened }, _, z, .read ?_,
        .talked (.done due answer) (.http h reply)⟩
      simp only [absent, if_true]
      have marked := Outside.Settles.modified o (fun h => { h with client := .opened }) h y
      exact (asked.second h).bind (marked.bind request)
  · obtain ⟨reply, y, request⟩ := http_request_settles o h h sql x
    have nothing : (Transport.http h).opening? = none := by simp [opening?, absent]
    refine ⟨_, h, _, y, .read ?_, .talked (.needless nothing) (.http h reply)⟩
    simp only [absent, if_false]
    exact request

theorem send_settles (t : Transport) (sql : String) (x : Exchange W) :
    ∃ result t' turns y, o.Settles Prod.snd (send o sql) (t, x) result turns (t', y) ∧
      Course t sql result t' turns := by
  cases t with
  | custom typeName mode =>
    obtain ⟨answer, y, asked⟩ := Outside.Settles.call o (.deliver sql) x
    exact ⟨answer, _, _, y, .read (asked.second _),
      .talked (.needless rfl) (.custom typeName mode answer)⟩
  | function =>
    obtain ⟨answer, y, asked⟩ := Outside.Settles.call o (.deliver sql) x
    refine ⟨_, _, _, y, .read ?_, .talked (.needless rfl) (.function answer)⟩
    cases answer with
    | error f => exact (asked.second _).bind_error _
    | ok rows =>
      have listed := Outside.Settles.ofExcept o Prod.snd rows.listed (Transport.function, y)
      exact (asked.second _).bind (listed.mapped _)
  | http h =>
    obtain ⟨result, h', turns, y, sent, course⟩ := http_send_settles o h sql x
    exact ⟨result, _, turns, y, .read (sent.variant _ _), course⟩
  | ipc t =>
    obtain ⟨result, turns, y, sent, course⟩ := ipc_send_settles o t sql x
    exact ⟨result, _, turns, y, .read (sent.variant _ _), course⟩
  | sqlite t =>
    obtain ⟨result, t', turns, y, sent, course⟩ := sqlite_send_settles o t sql x
    exact ⟨result, _, turns, y, .read (sent.variant _ _), course⟩
  | duckdb t =>
    obtain ⟨result, t', turns, y, sent, course⟩ := duckdb_send_settles o t sql x
    exact ⟨result, _, turns, y, .read (sent.variant _ _), course⟩

end Statements

inductive Operation
  | send (sql : String)
  | connect
  | close

def Operation.run {W : Type} (o : Outside W) : Operation → Act (Transport × Exchange W) Unit
  | send sql => do let _ ← Transport.send o sql; pure ()
  | connect => Transport.connect o
  | close => Transport.close o

/-- Operations in a row; one that fails does not keep the next from being run. -/
def perform {W : Type} (o : Outside W) : List Operation → Act (Transport × Exchange W) Unit
  | [] => pure ()
  | op :: ops => do
    (op.run o).rescue fun _ => pure ()
    perform o ops

inductive Step (t : Transport) : Operation → Transport → List Turn → Prop
  | sent {sql : String} {result : Except Failure Value} {t' : Transport} {turns : List Turn}
    (course : Course t sql result t' turns) : Step t (.send sql) t' turns
  | connected {result : Except Failure Unit} {t' : Transport} {turns : List Turn}
    (database : t.isDatabase = true) (opening : Opening t result t' turns) :
    Step t .connect t' turns
  | unconnected (other : t.isDatabase = false) : Step t .connect t []
  | closed {result : Except Failure Unit} {t' : Transport} {turns : List Turn}
    (closing : Closing t result t' turns) : Step t .close t' turns

inductive Run : Transport → List Operation → Transport → List Turn → Prop
  | nil (t : Transport) : Run t [] t []
  | cons {t t' t'' : Transport} {op : Operation} {ops : List Operation} {turns more : List Turn}
    (step : Step t op t' turns) (rest : Run t' ops t'' more) :
    Run t (op :: ops) t'' (turns ++ more)

variable {W : Type} (o : Outside W)

theorem operation_settles (op : Operation) (t : Transport) (x : Exchange W) :
    ∃ result t' turns y, o.Settles Prod.snd (op.run o) (t, x) result turns (t', y) ∧
      Step t op t' turns := by
  cases op with
  | send sql =>
    obtain ⟨result, t', turns, y, sent, course⟩ := send_settles o t sql x
    exact ⟨_, t', turns, y, sent.mapped _, .sent course⟩
  | connect =>
    obtain ⟨result, t', turns, y, connected, opening⟩ := connect_settles o t x
    cases database : t.isDatabase with
    | true =>
      simp only [database, if_true] at opening
      exact ⟨result, t', turns, y, connected, .connected database opening⟩
    | false =>
      simp only [database, Bool.false_eq_true, if_false] at opening
      obtain ⟨-, rfl, rfl⟩ := opening
      exact ⟨result, _, _, y, connected, .unconnected database⟩
  | close =>
    obtain ⟨result, t', turns, y, left, closing⟩ := close_settles o t x
    exact ⟨result, t', turns, y, left, .closed closing⟩

theorem perform_settles (ops : List Operation) (t : Transport) (x : Exchange W) :
    ∃ t' turns y, o.Settles Prod.snd (perform o ops) (t, x) (.ok ()) turns (t', y) ∧
      Run t ops t' turns := by
  induction ops generalizing t x with
  | nil => exact ⟨t, [], x, .ofExcept o Prod.snd (.ok ()) (t, x), .nil t⟩
  | cons op ops ih =>
    obtain ⟨result, t', turns, y, done, step⟩ := operation_settles o op t x
    obtain ⟨t'', more, z, performed, run⟩ := ih t' y
    exact ⟨t'', turns ++ more, z, done.ignored.bind performed, .cons step run⟩

end Transport
end PagedQuery
