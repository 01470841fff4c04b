import PagedQuery.Proofs.Transport.Course

/-! Statements are handed over as they are and at most once: by one call of each sending at most,
which is not made again whatever fails, and not made at all when nothing could be opened. -/
namespace PagedQuery

namespace Call

/-- The statement that a call hands over to be run. -/
def statement? : Call → Option String
  | deliver sql | request _ _ sql _ | post _ sql | runCursor sql | runDuckdb sql => some sql
  | _ => none

def opens : Call → Bool
  | dial .. | openCursor => true
  | c => c.connects

/-- Calls that give back what was opened for a statement alone. -/
def leaves : Call → Bool
  | hangUp | closeCursor => true
  | _ => false

theorem statement?_of_connects {c : Call} (connects : c.connects = true) :
    c.statement? = none := by
  cases c <;> first | rfl | cases connects

theorem statement?_of_leaves {c : Call} (leaves : c.leaves = true) : c.statement? = none := by
  cases c <;> first | rfl | cases leaves

theorem opens_of_leaves {c : Call} (leaves : c.leaves = true) : c.opens = false := by
  cases c <;> first | rfl | cases leaves

end Call

def handed (turns : List Turn) : List Call :=
  (turns.map Turn.call).filter fun c => c.statement?.isSome

theorem handed_append (first second : List Turn) :
    handed (first ++ second) = handed first ++ handed second := by
  simp only [handed, List.map_append, List.filter_append]

theorem handed_silent {u : Turn} (silent : u.call.statement? = none) : handed [u] = [] := by
  simp [handed, silent]

structure Delivery (c : Call) (given : Bool) (turns : List Turn) : Prop where
  once : handed turns = [] ∨ handed turns = [c]
  unrepeated : turns.Pairwise fun u v =>
    u.call ≠ v.call ∧ (u.succeeded = false → v.call.leaves = true)
  unopened : ∀ u ∈ turns, u.call.opens = true → u.succeeded = false → handed turns = []
  answered : given = true → handed turns = [c] ∧ ∀ u ∈ turns, u.succeeded = true

namespace Delivery

variable {c : Call} {given : Bool} {turns : List Turn} {u : Turn}

theorem mono {less : Bool} (d : Delivery c given turns) (needed : less = true → given = true) :
    Delivery c less turns :=
  ⟨d.once, d.unrepeated, d.unopened, fun whole => d.answered (needed whole)⟩

theorem hindered (silent : u.call.statement? = none) : Delivery c false [u] where
  once := .inl (handed_silent silent)
  unrepeated := List.pairwise_singleton _ _
  unopened := fun _ _ _ _ => handed_silent silent
  answered := nofun

theorem handover {sql : String} (text : c.statement? = some sql) (plain : c.opens = false)
    (answer : Except Failure c.Answer) : Delivery c answer.isOk [⟨c, answer⟩] := by
  have here : handed [⟨c, answer⟩] = [c] := by simp [handed, text]
  constructor
  · exact .inr here
  · exact List.pairwise_singleton _ _
  · intro u member opens
    cases List.mem_singleton.mp member
    rw [plain] at opens
    cases opens
  · intro whole
    refine ⟨here, ?_⟩
    intro u member
    cases List.mem_singleton.mp member
    exact whole

theorem opened (d : Delivery c given turns) (silent : u.call.statement? = none)
    (succeeded : u.succeeded = true) (fresh : ∀ v ∈ turns, u.call ≠ v.call) :
    Delivery c given (u :: turns) := by
  have same : handed (u :: turns) = handed turns := by
    rw [← List.singleton_append, handed_append, handed_silent silent, List.nil_append]
  constructor
  · rw [same]
    exact d.once
  · refine List.pairwise_cons.mpr ⟨?_, d.unrepeated⟩
    intro v member
    refine ⟨fresh v member, ?_⟩
    intro failed
    rw [succeeded] at failed
    cases failed
  · intro v member opens failed
    rw [same]
    rcases List.mem_cons.mp member with rfl | later
    · rw [succeeded] at failed
      cases failed
    · exact d.unopened v later opens failed
  · intro whole
    obtain ⟨here, all⟩ := d.answered whole
    rw [same]
    exact ⟨here, List.forall_mem_cons.mpr ⟨succeeded, all⟩⟩

/-- One more turn follows, which may fail: a failure before it only lets it leave. -/
theorem followed (d : Delivery c given turns) (silent : u.call.statement? = none)
    (plain : u.call.opens = false) (fresh : ∀ v ∈ turns, v.call ≠ u.call)
    (due : u.call.leaves = true ∨ given = true) :
    Delivery c (given && u.succeeded) (turns ++ [u]) := by
  have same : handed (turns ++ [u]) = handed turns := by
    rw [handed_append, handed_silent silent, List.append_nil]
  constructor
  · rw [same]
    exact d.once
  · refine List.pairwise_append.mpr ⟨d.unrepeated, List.pairwise_singleton _ _, ?_⟩
    intro v early w member
    cases List.mem_singleton.mp member
    refine ⟨fresh v early, ?_⟩
    intro failed
    -- after a failure there is nothing to fetch
    rcases due with leaves | whole
    · exact leaves
    · rw [(d.answered whole).2 v early] at failed
      cases failed
  · intro v member opens failed
    rw [same]
    rcases List.mem_append.mp member with early | last
    · exact d.unopened v early opens failed
    · cases List.mem_singleton.mp last
      rw [plain] at opens
      cases opens
  · intro both
    obtain ⟨whole, succeeded⟩ := (Bool.and_eq_true_iff).mp both
    obtain ⟨here, all⟩ := d.answered whole
    rw [same]
    refine ⟨here, ?_⟩
    intro v member
    rcases List.mem_append.mp member with early | last
    · exact all v early
    · cases List.mem_singleton.mp last
      exact succeeded

theorem left (d : Delivery c given turns) (leaves : u.call.leaves = true)
    (fresh : ∀ v ∈ turns, v.call ≠ u.call) :
    Delivery c (given && u.succeeded) (turns ++ [u]) :=
  d.followed (Call.statement?_of_leaves leaves) (Call.opens_of_leaves leaves) fresh (.inl leaves)

end Delivery

section Success

variable {α β : Type}

theorem isOk_map (r : Except Failure α) (f : α → β) : (r.map f).isOk = r.isOk := by
  cases r <;> rfl

theorem isOk_mapError (r : Except Failure α) (g : Failure → Failure) :
    (r.mapError g).isOk = r.isOk := by
  cases r <;> rfl

theorem isOk_left (closing : Except Failure Unit) (r : Except Failure α) :
    (closing >>= fun _ => r).isOk = (r.isOk && closing.isOk) := by
  cases closing with
  | error f => exact (Bool.and_false _).symm
  | ok _ => exact (Bool.and_true _).symm

theorem isOk_of_bind {r : Except Failure α} {f : α → Except Failure β}
    (whole : (r >>= f).isOk = true) : r.isOk = true := by
  cases r with
  | error g => exact whole
  | ok x => rfl

end Success

section Drivers

variable {sql : String} {result : Except Failure Value} {turns : List Turn}

theorem Ipc.Asked.delivery {t : Ipc} (asked : Asked t sql result turns) :
    Delivery (.post t.channel sql) result.isOk turns := by
  have text : (Call.post t.channel sql).statement? = some sql := rfl
  cases asked with
  | undialed f => exact .hindered rfl
  | unposted f closing =>
    have posted := Delivery.handover text rfl (.error f)
    have left := posted.left (u := ⟨.hangUp, closing⟩) rfl (by simp)
    rw [isOk_left]
    exact left.opened rfl rfl (by simp)
  | posted answer closing =>
    have posted := Delivery.handover text rfl (.ok ())
    have received := posted.followed (u := ⟨.receive, answer⟩) rfl rfl (by simp) (.inr rfl)
    have left := received.left (u := ⟨.hangUp, closing⟩) rfl (by simp)
    rw [isOk_left]
    exact left.opened rfl rfl (by simp)

theorem Sqlite.Executed.delivery (executed : Executed sql result turns) :
    Delivery (.runCursor sql) result.isOk turns := by
  have text : (Call.runCursor sql).statement? = some sql := rfl
  cases executed with
  | refused f => exact .handover text rfl (.error f)
  | rowless columns => exact .handover text rfl (.ok columns)
  | fetched columns named data =>
    have run := Delivery.handover text rfl (.ok columns)
    rw [isOk_map]
    exact run.followed (u := ⟨.fetchCursor, data⟩) rfl rfl (by simp) (.inr rfl)

theorem Sqlite.Ran.delivery (ran : Ran sql result turns) :
    Delivery (.runCursor sql) result.isOk turns := by
  cases ran with
  | noCursor f => exact .hindered rfl
  | ran executed closing =>
    have apart := executed.apart
    have left := executed.delivery.left (u := ⟨.closeCursor, closing⟩) rfl
      fun v member => (apart v member).2
    rw [isOk_left, isOk_mapError]
    refine left.opened rfl rfl ?_
    intro v member
    rcases List.mem_append.mp member with early | last
    · exact (apart v early).1.symm
    · cases List.mem_singleton.mp last
      simp

theorem Duckdb.Ran.delivery (ran : Ran sql result turns) :
    Delivery (.runDuckdb sql) result.isOk turns := by
  have text : (Call.runDuckdb sql).statement? = some sql := rfl
  cases ran with
  | refused f => exact .handover text rfl (.error f)
  | fetched columns data =>
    have run := Delivery.handover text rfl (.ok columns)
    rw [isOk_map]
    exact run.followed (u := ⟨.fetchDuckdb, data⟩) rfl rfl (by simp) (.inr rfl)

end Drivers

namespace Transport

def delivery (sql : String) : Transport → Call
  | .custom .. | .function => .deliver sql
  | .http h => h.delivery sql
  | .ipc t => .post t.channel sql
  | .sqlite _ => .runCursor sql
  | .duckdb _ => .runDuckdb sql

theorem delivery_statement? (t : Transport) (sql : String) :
    (t.delivery sql).statement? = some sql := by
  cases t <;> rfl

section Sending

variable [Runtime] {t t' : Transport} {sql : String} {result : Except Failure Value}
  {turns : List Turn}

theorem Talk.delivery (talk : Talk sql t result turns) :
    Delivery (t.delivery sql) result.isOk turns := by
  have text := t.delivery_statement? sql
  cases talk with
  | custom typeName mode => exact .handover text rfl result
  | function answer => exact (Delivery.handover text rfl answer).mono isOk_of_bind
  | http h answer =>
    refine (Delivery.handover text rfl answer).mono ?_
    intro whole
    have asked := isOk_of_bind (r := answer.mapError h.requestFailure) whole
    rw [isOk_mapError] at asked
    exact asked
  | @ipc t reply turns asked =>
    refine asked.delivery.mono ?_
    intro whole
    have replied := isOk_of_bind whole
    rw [isOk_mapError] at replied
    exact replied
  | sqlite t ran => exact ran.delivery
  | duckdb t ran =>
    rw [isOk_mapError]
    exact ran.delivery

theorem Course.delivery (course : Course t sql result t' turns) :
    Delivery (t.delivery sql) result.isOk turns := by
  cases course with
  | unopened opening =>
    cases opening with
    | failed due f => exact .hindered (Call.statement?_of_connects (lacks_of_opening? due).connects)
  | talked opening talk =>
    cases opening with
    | needless nothing => exact talk.delivery
    | done due answer =>
      have connects := (lacks_of_opening? due).connects
      refine talk.delivery.opened (Call.statement?_of_connects connects) rfl ?_
      intro v member same
      have apart := (talk.apart v member).1
      rw [← same] at apart
      rw [connects] at apart
      cases apart

end Sending

def texts (turns : List Turn) : List String := turns.filterMap fun u => u.call.statement?

def Operation.statement? : Operation → Option String
  | send sql => some sql
  | connect | close => none

theorem texts_eq_handed (turns : List Turn) :
    texts turns = (handed turns).filterMap Call.statement? := by
  simp only [texts, handed, List.filterMap_filter, List.filterMap_map]
  congr 1
  funext u
  cases text : u.call.statement? <;> simp [text]

section Operations

variable {t t' : Transport} {turns : List Turn}

theorem Owes.silent {c : Call} (owes : Owes t c) : c.statement? = none := by
  cases owes <;> rfl

theorem Attempt.handed {after : Transport} {call? : Option Call} {report : Failure → Failure}
    {result : Except Failure Unit}
    (attempt : Attempt t call? report after result t' turns)
    (silent : ∀ c, call? = some c → c.statement? = none) : handed turns = [] := by
  cases attempt with
  | needless nothing => rfl
  | done due answer => exact handed_silent (silent _ due)
  | failed due f => exact handed_silent (silent _ due)

variable [Runtime]

theorem Step.texts_sublist {op : Operation} (step : Step t op t' turns) :
    (texts turns).Sublist op.statement?.toList := by
  rw [texts_eq_handed]
  cases step with
  | @sent sql _ _ _ course =>
    rcases course.delivery.once with none | one
    · rw [none]
      exact List.nil_sublist _
    · simp [one, delivery_statement?, Operation.statement?]
  | connected database opening =>
    rw [opening.handed fun c due => Call.statement?_of_connects (lacks_of_opening? due).connects]
    exact List.nil_sublist _
  | unconnected other => exact List.nil_sublist _
  | closed closing =>
    rw [closing.handed fun c due => (owes_of_closing? due).silent]
    exact List.nil_sublist _

theorem Run.texts_sublist {ops : List Operation} (run : Run t ops t' turns) :
    (texts turns).Sublist (ops.filterMap Operation.statement?) := by
  induction run with
  | nil t => exact List.nil_sublist _
  | @cons t t' t'' op ops turns more step rest ih =>
    have both := step.texts_sublist.append ih
    simp only [texts, List.filterMap_append] at both ⊢
    cases op <;> exact both

end Operations

/-- One sending, from any state of any transport and whatever its calls are answered, delivers
its statement at most once and as it is, and gives rows only if all its turns succeeded. Over
operations in a row the delivered statements are some of those sent, in the same order. -/
theorem statements_delivered_at_most_once [Runtime] {W : Type} (o : Outside W) (t : Transport)
    (x : Exchange W) :
    (∀ sql, (t.delivery sql).statement? = some sql ∧
      ∃ result t' turns y, o.Settles Prod.snd (send o sql) (t, x) result turns (t', y) ∧
        Course t sql result t' turns ∧ Delivery (t.delivery sql) result.isOk turns) ∧
    ∀ ops, ∃ t' turns y, o.Settles Prod.snd (perform o ops) (t, x) (.ok ()) turns (t', y) ∧
      (texts turns).Sublist (ops.filterMap Operation.statement?) := by
  constructor
  · intro sql
    obtain ⟨result, t', turns, y, sent, course⟩ := send_settles o t sql x
    exact ⟨t.delivery_statement? sql, result, t', turns, y, sent, course, course.delivery⟩
  · intro ops
    obtain ⟨t', turns, y, performed, run⟩ := perform_settles o ops t x
    exact ⟨t', turns, y, performed, run.texts_sublist⟩

end Transport
end PagedQuery
