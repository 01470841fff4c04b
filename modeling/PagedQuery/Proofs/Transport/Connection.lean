import PagedQuery.Proofs.Transport.Delivery
import PagedQuery.Script

/-! Connections and clients that transports keep: there is one at most, opened when a statement
needs it and closed once. A cursor lives for one statement, and a client that was given is
used and left alone. -/
namespace PagedQuery

namespace Turn

def connected (u : Turn) : Bool := u.call.connects && u.succeeded

def disconnected (u : Turn) : Bool := u.call.disconnects && u.succeeded

def pointed : Turn → Bool
  | ⟨.openCursor, outcome⟩ => outcome.isOk
  | _ => false

/-- A cursor was closed, or could not be. -/
def unpointed : Turn → Bool
  | ⟨.closeCursor, _⟩ => true
  | _ => false

theorem no_cursor {u : Turn} (elsewhere : u.call ≠ .openCursor ∧ u.call ≠ .closeCursor) :
    u.pointed = false ∧ u.unpointed = false := by
  obtain ⟨c, outcome⟩ := u
  cases c <;> simp_all [pointed, unpointed]

end Turn

structure Balanced (opened closed : Turn → Bool) (held : Bool) (turns : List Turn)
    (held' : Bool) : Prop where
  -- at every point there is one more of what was opened than of what was closed, or as many
  along : ∀ early, early <+: turns → ∃ now : Bool,
    early.countP opened + held.toNat = early.countP closed + now.toNat
  settled : turns.countP opened + held.toNat = turns.countP closed + held'.toNat

namespace Balanced

variable {opened closed : Turn → Bool} {held held' held'' : Bool} {turns more : List Turn}
  {u : Turn}

theorem quiet (held : Bool) (apart : ∀ u ∈ turns, opened u = false ∧ closed u = false) :
    Balanced opened closed held turns held := by
  have counts : ∀ early, early <+: turns → early.countP opened = 0 ∧ early.countP closed = 0 := by
    intro early start
    constructor <;> rw [List.countP_eq_zero] <;> intro u member
    · simp [(apart u (start.subset member)).1]
    · simp [(apart u (start.subset member)).2]
  constructor
  · intro early start
    obtain ⟨none, nothing⟩ := counts early start
    exact ⟨held, by rw [none, nothing]⟩
  · obtain ⟨none, nothing⟩ := counts turns (List.prefix_refl turns)
    rw [none, nothing]

theorem single (balance : [u].countP opened + held.toNat = [u].countP closed + held'.toNat) :
    Balanced opened closed held [u] held' := by
  constructor
  · intro early start
    rcases List.prefix_cons_iff.mp start with rfl | ⟨rest, rfl, tail⟩
    · exact ⟨held, rfl⟩
    · rw [List.prefix_nil.mp tail]
      exact ⟨held', balance⟩
  · exact balance

theorem append (first : Balanced opened closed held turns held')
    (second : Balanced opened closed held' more held'') :
    Balanced opened closed held (turns ++ more) held'' := by
  have joined : ∀ early, ∀ now : Bool,
      early.countP opened + held'.toNat = early.countP closed + now.toNat →
      (turns ++ early).countP opened + held.toNat =
        (turns ++ early).countP closed + now.toNat := by
    intro early now later
    have before := first.settled
    rw [List.countP_append, List.countP_append]
    omega
  constructor
  · intro early start
    -- a prefix of the whole ends inside the first turns, or goes on from all of them
    rcases List.prefix_or_prefix_of_prefix start (List.prefix_append turns more) with
      inside | ⟨rest, rfl⟩
    · exact first.along early inside
    · obtain ⟨now, later⟩ := second.along rest ((List.prefix_append_right_inj turns).mp start)
      exact ⟨now, joined rest now later⟩
  · exact joined more held'' second.settled

end Balanced

theorem Sqlite.Ran.cursors {sql : String} {result : Except Failure Value} {turns : List Turn}
    (ran : Ran sql result turns) : Balanced Turn.pointed Turn.unpointed false turns false := by
  cases ran with
  | noCursor f => exact .single rfl
  | @ran result turns executed closing =>
    have obtained : Balanced Turn.pointed Turn.unpointed false [⟨.openCursor, .ok ()⟩] true :=
      .single rfl
    have used := Balanced.quiet true fun u member => Turn.no_cursor (executed.apart u member)
    have left : Balanced Turn.pointed Turn.unpointed true [⟨.closeCursor, closing⟩] false :=
      .single rfl
    exact obtained.append (used.append left)

namespace Transport

def holds : Transport → Bool
  | .http h => h.client != .none
  | .sqlite t => t.connected
  | .duckdb t => t.connected
  | _ => false

/-- Whether a transport opens what it keeps, and closes it, by itself. -/
def keepsOwn : Transport → Bool
  | .http h => h.client != .given
  | .sqlite _ | .duckdb _ => true
  | _ => false

theorem Lacks.holds {t : Transport} {c : Call} (lacks : Lacks t c) :
    t.holds = false ∧ t.ready.holds = true := by
  cases lacks with
  | client absent => exact ⟨by simp [Transport.holds, absent], rfl⟩
  | sqlite absent => exact ⟨absent, rfl⟩
  | duckdb absent => exact ⟨absent, rfl⟩

theorem Owes.closes {t : Transport} {c : Call} (owes : Owes t c) :
    (c = .release ∧ t.idle = t ∧ t.keepsOwn = false) ∨
      (c.disconnects = true ∧ t.holds = true ∧ t.idle.holds = false) := by
  cases owes with
  | word => exact .inl ⟨rfl, rfl, rfl⟩
  | client opened => exact .inr ⟨rfl, by simp [holds, opened], rfl⟩
  | sqlite connected => exact .inr ⟨rfl, connected, rfl⟩
  | duckdb connected => exact .inr ⟨rfl, connected, rfl⟩

theorem opening?_of_own {t : Transport} (own : t.keepsOwn = true) :
    t.opening? = none ↔ t.holds = true := by
  cases t with
  | http h => cases client : h.client <;> simp [opening?, holds, keepsOwn, client] at own ⊢
  | sqlite t => simp [opening?, holds]
  | duckdb t => simp [opening?, holds]
  | _ => cases own

theorem closing?_of_own {t : Transport} (own : t.keepsOwn = true) :
    t.closing? = none ↔ t.holds = false := by
  cases t with
  | http h => cases client : h.client <;> simp [closing?, holds, keepsOwn, client] at own ⊢
  | sqlite t => simp [closing?, holds]
  | duckdb t => simp [closing?, holds]
  | _ => cases own

section Balance

variable {t t' after : Transport} {turns : List Turn}

theorem Attempt.quiet {opened closed : Turn → Bool} {call? : Option Call}
    {report : Failure → Failure} {result : Except Failure Unit}
    (attempt : Attempt t call? report after result t' turns) (held : Bool)
    (apart : ∀ u : Turn, call? = some u.call → opened u = false ∧ closed u = false) :
    Balanced opened closed held turns held := by
  refine .quiet held ?_
  cases attempt with
  | needless nothing => exact List.forall_mem_nil _
  | done due answer => exact List.forall_mem_singleton.mpr (apart _ due)
  | failed due f => exact List.forall_mem_singleton.mpr (apart _ due)

theorem Opening.balanced {result : Except Failure Unit} (opening : Opening t result t' turns) :
    Balanced Turn.connected Turn.disconnected t.holds turns t'.holds := by
  cases opening with
  | needless nothing => exact .quiet _ (List.forall_mem_nil _)
  | done due answer =>
    obtain ⟨absent, present⟩ := (lacks_of_opening? due).holds
    have connects := (lacks_of_opening? due).connects
    apply Balanced.single
    simp [Turn.connected, Turn.disconnected, connects, absent, present,
      (Call.connects_apart connects).1]
  | failed due f =>
    apply Balanced.single
    simp [Turn.connected, Turn.disconnected]

theorem Closing.balanced {result : Except Failure Unit} (closing : Closing t result t' turns) :
    Balanced Turn.connected Turn.disconnected t.holds turns t'.holds := by
  cases closing with
  | needless nothing => exact .quiet _ (List.forall_mem_nil _)
  | done due answer =>
    apply Balanced.single
    rcases (owes_of_closing? due).closes with ⟨rfl, same, -⟩ | ⟨disconnects, present, absent⟩
    · rw [same]
      rfl
    · simp [Turn.connected, Turn.disconnected, disconnects, absent, present,
        (Call.disconnects_apart disconnects).1]
  | failed due f =>
    apply Balanced.single
    simp [Turn.connected, Turn.disconnected]

variable [Runtime]

theorem Talk.balanced {sql : String} {result : Except Failure Value}
    (talk : Talk sql t result turns) (held : Bool) :
    Balanced Turn.connected Turn.disconnected held turns held := by
  refine .quiet held ?_
  intro u member
  obtain ⟨unconnected, undisconnected⟩ := talk.apart u member
  exact ⟨by rw [Turn.connected, unconnected, Bool.false_and],
    by rw [Turn.disconnected, undisconnected, Bool.false_and]⟩

theorem Step.balanced {op : Operation} (step : Step t op t' turns) :
    Balanced Turn.connected Turn.disconnected t.holds turns t'.holds := by
  cases step with
  | sent course =>
    cases course with
    | unopened opening => exact opening.balanced
    | talked opening talk => exact opening.balanced.append (talk.balanced _)
  | connected database opening => exact opening.balanced
  | unconnected other => exact .quiet _ (List.forall_mem_nil _)
  | closed closing => exact closing.balanced

theorem Run.balanced {ops : List Operation} (run : Run t ops t' turns) :
    Balanced Turn.connected Turn.disconnected t.holds turns t'.holds := by
  induction run with
  | nil t => exact .quiet _ (List.forall_mem_nil _)
  | cons step rest ih => exact step.balanced.append ih

end Balance

section Cursors

variable {t t' : Transport} {turns : List Turn}

theorem Opening.cursors {result : Except Failure Unit} (opening : Opening t result t' turns) :
    Balanced Turn.pointed Turn.unpointed false turns false := by
  apply Attempt.quiet opening
  intro u due
  exact Turn.no_cursor (Call.connects_apart (lacks_of_opening? due).connects).2

theorem Closing.cursors {result : Except Failure Unit} (closing : Closing t result t' turns) :
    Balanced Turn.pointed Turn.unpointed false turns false := by
  apply Attempt.quiet closing
  intro u due
  apply Turn.no_cursor
  rcases (owes_of_closing? due).closes with ⟨release, -⟩ | ⟨disconnects, -⟩
  · simp [release]
  · exact (Call.disconnects_apart disconnects).2

variable [Runtime]

theorem Talk.cursors {sql : String} {result : Except Failure Value}
    (talk : Talk sql t result turns) :
    Balanced Turn.pointed Turn.unpointed false turns false := by
  cases talk with
  | custom | function | http =>
    exact .quiet false (List.forall_mem_singleton.mpr ⟨rfl, rfl⟩)
  | ipc asked =>
    refine .quiet false fun u member => Turn.no_cursor ?_
    cases asked <;> revert u <;> simp
  | sqlite t ran => exact ran.cursors
  | duckdb t ran =>
    refine .quiet false fun u member => Turn.no_cursor ?_
    cases ran <;> revert u <;> simp

theorem Step.cursors {op : Operation} (step : Step t op t' turns) :
    Balanced Turn.pointed Turn.unpointed false turns false := by
  cases step with
  | sent course =>
    cases course with
    | unopened opening => exact opening.cursors
    | talked opening talk => exact opening.cursors.append talk.cursors
  | connected database opening => exact opening.cursors
  | unconnected other => exact .quiet _ (List.forall_mem_nil _)
  | closed closing => exact closing.cursors

end Cursors

section Own

variable {t t' : Transport} {op : Operation} {turns : List Turn}

def Operation.needs (t : Transport) : Operation → Bool
  | send _ => true
  | connect => t.isDatabase
  | close => false

structure Upkeep (t : Transport) (op : Operation) (t' : Transport) (turns : List Turn) :
    Prop where
  kept : t.holds = true → op ≠ .close →
    t' = t ∧ ∀ u ∈ turns, u.call.connects = false ∧ u.call.disconnects = false
  opened : t.holds = false → op.needs t = true → ∃ u rest, turns = u :: rest ∧
    u.call.connects = true ∧ t'.holds = u.succeeded ∧ (u.succeeded = false → rest = []) ∧
    ∀ v ∈ rest, v.call.connects = false ∧ v.call.disconnects = false
  closed : op = .close → if t.holds
    then ∃ u, turns = [u] ∧ u.call.disconnects = true ∧ t'.holds = !u.succeeded
    else turns = [] ∧ t' = t
  cursors : Balanced Turn.pointed Turn.unpointed false turns false

theorem Opening.opened {result : Except Failure Unit} (opening : Opening t result t' turns)
    (needed : t.opening? ≠ none) : ∃ u, turns = [u] ∧ u.call.connects = true ∧
      t'.holds = u.succeeded ∧ (u.succeeded = false → ∃ f, result = .error f) := by
  obtain ⟨u, due, rfl, outcome⟩ := Attempt.of_some opening needed
  obtain ⟨absent, present⟩ := (lacks_of_opening? due).holds
  refine ⟨u, rfl, (lacks_of_opening? due).connects, ?_⟩
  rcases outcome with ⟨succeeded, -, rfl⟩ | ⟨failed, reported, rfl⟩
  · exact ⟨by rw [present, succeeded], by simp [succeeded]⟩
  · exact ⟨by rw [absent, failed], fun _ => reported⟩

theorem Closing.closed {result : Except Failure Unit} (own : t.keepsOwn = true)
    (closing : Closing t result t' turns) : if t.holds
      then ∃ u, turns = [u] ∧ u.call.disconnects = true ∧ t'.holds = !u.succeeded
      else turns = [] ∧ t' = t := by
  cases held : t.holds with
  | false => exact (Attempt.of_none closing ((closing?_of_own own).mpr held)).2.symm
  | true =>
    have needed : t.closing? ≠ none := by
      intro nothing
      rw [closing?_of_own own, held] at nothing
      cases nothing
    obtain ⟨u, due, rfl, outcome⟩ := Attempt.of_some closing needed
    rcases (owes_of_closing? due).closes with ⟨-, -, given⟩ | ⟨disconnects, -, absent⟩
    · rw [own] at given
      cases given
    · refine ⟨u, rfl, disconnects, ?_⟩
      rcases outcome with ⟨succeeded, -, rfl⟩ | ⟨failed, -, rfl⟩
      · rw [absent, succeeded]
        rfl
      · rw [held, failed]
        rfl

theorem Lacks.keepsOwn {c : Call} (lacks : Lacks t c) : t.ready.keepsOwn = t.keepsOwn := by
  cases lacks with
  | client absent =>
    simp only [ready, Transport.keepsOwn, absent]
    rfl
  | sqlite | duckdb => rfl

theorem Owes.keepsOwn {c : Call} (owes : Owes t c) : t.idle.keepsOwn = t.keepsOwn := by
  cases owes with
  | client opened =>
    simp only [idle, Transport.keepsOwn, opened]
    rfl
  | word | sqlite | duckdb => rfl

theorem Attempt.keepsOwn {after : Transport} {call? : Option Call} {report : Failure → Failure}
    {result : Except Failure Unit} (attempt : Attempt t call? report after result t' turns)
    (same : ∀ c, call? = some c → after.keepsOwn = t.keepsOwn) : t'.keepsOwn = t.keepsOwn := by
  cases attempt with
  | needless => rfl
  | done due answer => exact same _ due
  | failed => rfl

variable [Runtime]

theorem Step.kept (step : Step t op t' turns) (nothing : t.opening? = none)
    (other : op ≠ .close) :
    t' = t ∧ ∀ u ∈ turns, u.call.connects = false ∧ u.call.disconnects = false := by
  cases step with
  | sent course =>
    cases course with
    | unopened opening =>
      obtain ⟨impossible, -⟩ := Attempt.of_none opening nothing
      cases impossible
    | talked opening talk =>
      obtain ⟨-, rfl, rfl⟩ := Attempt.of_none opening nothing
      exact ⟨rfl, talk.apart⟩
  | connected database opening =>
    obtain ⟨-, rfl, rfl⟩ := Attempt.of_none opening nothing
    exact ⟨rfl, List.forall_mem_nil _⟩
  | unconnected => exact ⟨rfl, List.forall_mem_nil _⟩
  | closed => exact absurd rfl other

theorem Step.opened (step : Step t op t' turns) (due : t.opening? ≠ none)
    (needed : op.needs t = true) : ∃ u rest, turns = u :: rest ∧ u.call.connects = true ∧
      t'.holds = u.succeeded ∧ (u.succeeded = false → rest = []) ∧
      ∀ v ∈ rest, v.call.connects = false ∧ v.call.disconnects = false := by
  cases step with
  | sent course =>
    cases course with
    | unopened opening =>
      obtain ⟨u, rfl, connects, holds, -⟩ := Opening.opened opening due
      exact ⟨u, [], rfl, connects, holds, fun _ => rfl, List.forall_mem_nil _⟩
    | @talked result _ first turns opening talk =>
      obtain ⟨u, rfl, connects, holds, failed⟩ := Opening.opened opening due
      refine ⟨u, turns, rfl, connects, holds, ?_, talk.apart⟩
      intro failure
      obtain ⟨f, impossible⟩ := failed failure
      cases impossible
  | connected database opening =>
    obtain ⟨u, rfl, connects, holds, -⟩ := Opening.opened opening due
    exact ⟨u, [], rfl, connects, holds, fun _ => rfl, List.forall_mem_nil _⟩
  | unconnected other =>
    rw [Operation.needs, other] at needed
    cases needed
  | closed => cases needed

theorem Step.upkeep (own : t.keepsOwn = true) (step : Step t op t' turns) :
    Upkeep t op t' turns := by
  constructor
  · intro held other
    exact step.kept ((opening?_of_own own).mpr held) other
  · intro absent needed
    refine step.opened ?_ needed
    rw [ne_eq, opening?_of_own own, absent]
    exact Bool.false_ne_true
  · rintro rfl
    cases step with
    | closed closing => exact Closing.closed own closing
  · exact step.cursors

theorem Step.keepsOwn (step : Step t op t' turns) : t'.keepsOwn = t.keepsOwn := by
  cases step with
  | sent course =>
    cases course with
    | unopened opening => exact opening.keepsOwn fun c due => (lacks_of_opening? due).keepsOwn
    | talked opening talk => exact opening.keepsOwn fun c due => (lacks_of_opening? due).keepsOwn
  | connected database opening =>
    exact opening.keepsOwn fun c due => (lacks_of_opening? due).keepsOwn
  | unconnected => rfl
  | closed closing => exact closing.keepsOwn fun c due => (owes_of_closing? due).keepsOwn

theorem Run.keepsOwn {ops : List Operation} (run : Run t ops t' turns) :
    t'.keepsOwn = t.keepsOwn := by
  induction run with
  | nil => rfl
  | cons step rest ih => rw [ih, step.keepsOwn]

end Own

section Given

variable [Runtime] {h : Http} {t' : Transport} {turns : List Turn}

theorem Step.given {op : Operation} (given : h.client = .given)
    (step : Step (.http h) op t' turns) :
    t' = .http h ∧ turns.map Turn.call = op.statement?.toList.map h.delivery := by
  have unopened : (Transport.http h).opening? = none := by simp [opening?, given]
  have unclosed : (Transport.http h).closing? = none := by simp [closing?, given]
  cases step with
  | sent course =>
    cases course with
    | unopened opening =>
      obtain ⟨impossible, -⟩ := Attempt.of_none opening unopened
      cases impossible
    | talked opening talk =>
      obtain ⟨-, rfl, rfl⟩ := Attempt.of_none opening unopened
      cases talk
      exact ⟨rfl, rfl⟩
  | connected database => cases database
  | unconnected => exact ⟨rfl, rfl⟩
  | closed closing =>
    obtain ⟨-, rfl, rfl⟩ := Attempt.of_none closing unclosed
    exact ⟨rfl, rfl⟩

/-- A client that was given is used for every statement, for nothing else, and stays. -/
theorem Run.given {ops : List Operation} (given : h.client = .given)
    (run : Run (.http h) ops t' turns) :
    t' = .http h ∧
      turns.map Turn.call = (ops.filterMap Operation.statement?).map h.delivery := by
  -- every step leaves the transport as it was, so that the next one starts from `h` again
  generalize same : Transport.http h = t at run
  induction run with
  | nil t =>
    subst same
    exact ⟨rfl, rfl⟩
  | @cons t t' t'' op ops turns more step rest ih =>
    subst same
    obtain ⟨rfl, here⟩ := step.given given
    obtain ⟨kept, later⟩ := ih rfl
    refine ⟨kept, ?_⟩
    rw [List.map_append, here, later]
    cases op <;> rfl

end Given

inductive Built : Bool → Transport → Prop
  | sqlite (options : Sqlite.Options) : Built false (.sqlite (Sqlite.make options))
  | duckdb {installed : Bool} {options : Duckdb.Options} {t : Duckdb}
    (made : Duckdb.make installed options = .ok t) : Built false (.duckdb t)
  | http {options : Http.Options} {h : Http} {given : Bool} (choice : options.given = given)
    (made : Http.make options = .ok h) : Built given (.http h)

theorem client_of_make {options : Http.Options} {h : Http} (made : Http.make options = .ok h) :
    h.client = if options.given then .given else .none := by
  unfold Http.make at made
  split at made
  · cases made
  · cases made
    rfl

theorem Built.own {t : Transport} (built : Built false t) :
    t.keepsOwn = true ∧ t.holds = false := by
  cases built with
  | sqlite options => exact ⟨rfl, rfl⟩
  | duckdb made =>
    unfold Duckdb.make at made
    split at made <;> cases made
    exact ⟨rfl, rfl⟩
  | http choice made =>
    have absent := client_of_make made
    rw [choice] at absent
    simp [keepsOwn, holds, absent]

theorem Built.given {t : Transport} (built : Built true t) :
    ∃ h : Http, t = .http h ∧ h.client = .given := by
  cases built with
  | @http options h _ choice made =>
    have given := client_of_make made
    rw [choice] at given
    exact ⟨h, rfl, given⟩

/-- Over any operations in a row on a transport that was made without a client there is one open
connection or client at every point, or none: as many were opened as were closed, and one more
while the transport holds it. Each operation keeps it up, whatever its calls are answered. A client
that was given is used for every statement and for nothing else. -/
theorem one_connection_at_most [Runtime] {W : Type} (o : Outside W) {given : Bool} {t : Transport}
    (built : Built given t) (x : Exchange W) (ops : List Operation) :
    ∃ t' turns y, o.Settles Prod.snd (perform o ops) (t, x) (.ok ()) turns (t', y) ∧
      if given then t' = t ∧
        turns.map Turn.call = (ops.filterMap Operation.statement?).map fun sql => t.delivery sql
      else Balanced Turn.connected Turn.disconnected false turns t'.holds ∧
        ∀ op, ∃ result t'' more z, o.Settles Prod.snd (op.run o) (t', y) result more (t'', z) ∧
          Upkeep t' op t'' more := by
  obtain ⟨t', turns, y, performed, run⟩ := perform_settles o ops t x
  refine ⟨t', turns, y, performed, ?_⟩
  cases given with
  | true =>
    obtain ⟨h, rfl, given⟩ := built.given
    exact run.given given
  | false =>
    obtain ⟨own, absent⟩ := built.own
    have balanced := run.balanced
    rw [absent] at balanced
    refine ⟨balanced, ?_⟩
    intro op
    obtain ⟨result, t'', more, z, done, step⟩ := operation_settles o op t' y
    exact ⟨result, t'', more, z, done, step.upkeep (run.keepsOwn.trans own)⟩

def reluctant : Script := Script.ofReplies [{
  failure := some (.thrown ⟨.sqlite, "OperationalError", "unable to open database file"⟩)
  place := some .connect }]

def errands : List Operation :=
  [.send "SELECT 1", .send "SELECT 2", .close, .close, .send "SELECT 3"]

open Runtime.Usual in
/-- The connection is opened at the second statement, closed once, and opened again. -/
theorem refused_then_reopened :
    ∃ t' turns y, scripted.Settles Prod.snd (perform scripted errands)
      (.sqlite (Sqlite.make {}), ⟨reluctant, []⟩) (.ok ()) turns (t', y) ∧
      Balanced Turn.connected Turn.disconnected false turns t'.holds ∧
      t'.holds = true ∧ turns.countP Turn.connected = 2 ∧ turns.countP Turn.disconnected = 1 := by
  obtain ⟨t', turns, y, performed, balanced, -⟩ :=
    one_connection_at_most scripted (.sqlite {}) ⟨reluctant, []⟩ errands
  refine ⟨t', turns, y, performed, balanced, ?_⟩
  have noted : turns.map Turn.event = y.log := performed.noted.symm
  have opened : turns.countP Turn.connected =
      (turns.map Turn.event).countP fun e => e.call.connects && e.succeeded := by
    rw [List.countP_map]
    rfl
  have closed : turns.countP Turn.disconnected =
      (turns.map Turn.event).countP fun e => e.call.disconnects && e.succeeded := by
    rw [List.countP_map]
    rfl
  rw [opened, closed, noted]
  cases performed.run
  exact ⟨rfl, rfl, rfl⟩

end Transport
end PagedQuery
