import PagedQuery.Proofs.Transport.Delivery
import PagedQuery.Proofs.Value.Writing
import PagedQuery.Script

/-! Failures of drivers, from the call that fails to what a sending reports. The last call that
fails decides. What the driver raises there is reported as an error of the transport that names
its cause, except for exceptions that the code around the call does not look for. -/
namespace PagedQuery

namespace Turn

def failure? (u : Turn) : Option (Call × Failure) :=
  match u.outcome with
  | .error f => some (u.call, f)
  | .ok _ => none

end Turn

def lastFailure? : List Turn → Option (Call × Failure)
  | [] => none
  | u :: later => (lastFailure? later).or u.failure?

theorem lastFailure?_append (first second : List Turn) :
    lastFailure? (first ++ second) = (lastFailure? second).or (lastFailure? first) := by
  induction first with
  | nil => rw [List.nil_append, lastFailure?, Option.or_none]
  | cons u first ih => rw [List.cons_append, lastFailure?, lastFailure?, ih, Option.or_assoc]

section Results

variable {α β : Type}

/-- A result tells of the last failure, and is a success when nothing failed. -/
def Tells (report : Call → Failure → Failure) (result : Except Failure α) (turns : List Turn) :
    Prop :=
  match lastFailure? turns with
  | some (c, f) => result = .error (report c f)
  | none => result.isOk = true

def NotThrown (result : Except Failure α) : Prop := ∀ e, result ≠ .error (.thrown e)

/-- A result tells of the last failure; when nothing failed it may be a failure of another kind. -/
def Surfaces (report : Call → Failure → Failure) (result : Except Failure α) (turns : List Turn) :
    Prop :=
  match lastFailure? turns with
  | some (c, f) => result = .error (report c f)
  | none => NotThrown result

variable {report : Call → Failure → Failure} {result : Except Failure α} {turns : List Turn}

theorem Tells.mapError (told : Tells (fun _ => id) result turns) (g : Failure → Failure) :
    Tells (fun _ => g) (result.mapError g) turns := by
  unfold Tells at told ⊢
  cases last : lastFailure? turns with
  | none =>
    rw [last] at told
    rw [isOk_mapError]
    exact told
  | some failed =>
    rw [last] at told
    simp only at told
    rw [told]
    rfl

theorem Tells.decoded (told : Tells report result turns) {f : α → Except Failure β}
    (read : ∀ x, NotThrown (f x)) : Surfaces report (result >>= f) turns := by
  unfold Tells at told
  unfold Surfaces
  cases last : lastFailure? turns with
  | none =>
    rw [last] at told
    cases result with
    | ok x => exact read x
    | error g => cases told
  | some failed =>
    rw [last] at told
    simp only at told
    rw [told]
    rfl

theorem Tells.surfaces (told : Tells report result turns) : Surfaces report result turns := by
  have decoded := told.decoded (f := Except.ok) fun x e same => nomatch same
  cases result <;> exact decoded

end Results

section Drivers

variable {sql : String} {result : Except Failure Value} {turns : List Turn}

theorem Ipc.Asked.tells {t : Ipc} (asked : Asked t sql result turns) :
    Tells (fun _ => id) result turns := by
  cases asked with
  | undialed f => rfl
  | unposted f closing => cases closing <;> rfl
  | posted reply closing => cases reply <;> cases closing <;> rfl

/-- Only the cursor itself may fail to be closed without a report. -/
def Sqlite.report : Call → Failure → Failure
  | .openSqlite .. => connectFailure
  | .closeCursor => id
  | _ => queryFailure

theorem Sqlite.Ran.tells (ran : Ran sql result turns) : Tells Sqlite.report result turns := by
  cases ran with
  | noCursor f => rfl
  | ran executed closing =>
    cases executed with
    | refused f => cases closing <;> rfl
    | rowless columns => cases closing <;> rfl
    | fetched columns named data => cases data <;> cases closing <;> rfl

def Duckdb.report : Call → Failure → Failure
  | .openDuckdb .. => connectFailure
  | _ => queryFailure

theorem Duckdb.Ran.tells (ran : Ran sql result turns) :
    Tells Duckdb.report (result.mapError queryFailure) turns := by
  cases ran with
  | refused f => rfl
  | fetched columns data => cases data <;> rfl

end Drivers

section Answers

theorem NotThrown.bind {α β : Type} {result : Except Failure α} {f : α → Except Failure β}
    (first : NotThrown result) (next : ∀ x, NotThrown (f x)) : NotThrown (result >>= f) := by
  cases result with
  | ok x => exact next x
  | error g =>
    rintro e ⟨⟩
    exact first e rfl

theorem NotThrown.ofFault {α : Type} (result : Except Fault α) :
    NotThrown (result.mapError Failure.fault) := by
  cases result <;> exact nofun

theorem Http.retryAfter_notThrown (r : Response) : NotThrown (Http.retryAfter r) := by
  unfold Http.retryAfter
  split
  · exact nofun
  · dsimp only
    split
    · exact nofun
    · split <;> exact nofun

variable [Runtime]

theorem Ipc.rows_notThrown (reply : Value) : NotThrown (Ipc.rows reply) := by
  unfold Ipc.rows
  split
  · exact nofun
  · split
    · unfold Failure.naming
      split <;> exact nofun
    · exact nofun
  · exact nofun

theorem Response.text_notThrown (r : Response) : NotThrown r.text := by
  unfold Response.text
  split
  · exact nofun
  · exact .ofFault _

theorem Http.decompressed_notThrown (h : Http) (r : Response) :
    NotThrown (r.decompressed.mapError h.requestFailure) := by
  unfold Response.decompressed
  split <;> exact nofun

theorem Http.readBody_notThrown (r : Response) : NotThrown (Http.readBody r) := by
  unfold Http.readBody
  split
  · exact nofun
  · split <;> exact nofun

theorem Http.plainMessage_notThrown (r : Response) : NotThrown (Http.plainMessage r) := by
  apply (Response.text_notThrown r).bind
  intro text
  split
  · exact (NotThrown.ofFault _).bind fun _ => nofun
  · exact nofun

theorem Http.refusalMessage_notThrown (r : Response) : NotThrown (Http.refusalMessage r) := by
  apply (Http.readBody_notThrown r).bind
  intro body
  split
  · exact Http.plainMessage_notThrown r
  · split
    · exact Http.plainMessage_notThrown r
    · exact nofun
    · split <;> exact nofun

theorem Http.refusal_notThrown (r : Response) : NotThrown (Http.refusal r) := by
  apply (Http.refusalMessage_notThrown r).bind
  intro message
  have logged : NotThrown (discard ((Http.logLine r message).mapError Failure.fault)) := by
    cases Http.logLine r message <;> exact nofun
  refine logged.bind fun _ => ?_
  dsimp only
  split
  · exact nofun
  · split
    · exact nofun
    · split
      · exact (Http.retryAfter_notThrown r).bind fun _ => nofun
      · exact nofun

theorem Http.rows_notThrown (h : Http) (r : Response) : NotThrown (h.rows r) := by
  unfold Http.rows
  split
  · apply (Http.readBody_notThrown r).bind
    intro body
    cases body with
    | error o => exact nofun
    | ok v =>
      dsimp only
      split <;> exact nofun
  · exact (Http.refusal_notThrown r).bind fun _ => nofun

end Answers

def Http.report [Runtime] (h : Http) : Call → Failure → Failure
  | .openClient .. => id
  | _ => h.requestFailure

namespace Transport

def report [Runtime] : Transport → Call → Failure → Failure
  | .http h => h.report
  | .ipc t => fun _ => t.askFailure
  | .sqlite _ => Sqlite.report
  | .duckdb _ => Duckdb.report
  | _ => fun _ => id

theorem Attempt.lastFailure? {t t' after : Transport} {turns : List Turn} {call? : Option Call}
    {g : Failure → Failure} (attempt : Attempt t call? g after (.ok ()) t' turns) :
    lastFailure? turns = none := by
  cases attempt <;> rfl

section Sending

variable [Runtime] {t t' : Transport} {sql : String} {result : Except Failure Value}
  {turns : List Turn}

theorem Talk.surfaces (talk : Talk sql t result turns) : Surfaces t.report result turns := by
  cases talk with
  | custom typeName mode =>
    have told : Tells (Transport.custom typeName mode).report result [⟨.deliver sql, result⟩] := by
      cases result <;> rfl
    exact told.surfaces
  | function answer =>
    have told : Tells Transport.function.report answer [⟨.deliver sql, answer⟩] := by
      cases answer <;> rfl
    refine told.decoded fun rows => ?_
    unfold Value.listed
    split <;> exact nofun
  | http h answer =>
    have told : Tells (Transport.http h).report (answer.mapError h.requestFailure)
        [⟨h.delivery sql, answer⟩] := by
      cases answer <;> rfl
    exact told.decoded fun r => (h.decompressed_notThrown r).bind h.rows_notThrown
  | @ipc t reply turns asked => exact (asked.tells.mapError t.askFailure).decoded Ipc.rows_notThrown
  | sqlite t ran => exact ran.tells.surfaces
  | duckdb t ran => exact ran.tells.surfaces

theorem Lacks.report {c : Call} (lacks : Lacks t c) : t.report c = t.openFailure := by
  cases lacks <;> rfl

theorem Course.surfaces (course : Course t sql result t' turns) :
    Surfaces t.report result turns := by
  cases course with
  | unopened opening =>
    cases opening with
    | failed due f =>
      have told := congrFun (lacks_of_opening? due).report f
      exact congrArg Except.error told.symm
  | talked opening talk =>
    unfold Surfaces
    rw [lastFailure?_append, opening.lastFailure?, Option.or_none]
    exact talk.surfaces

end Sending

def httpErrorNames : List String :=
  ["HTTPError", "RequestError", "TransportError", "TimeoutException", "ConnectTimeout",
   "ReadTimeout", "WriteTimeout", "PoolTimeout", "NetworkError", "ConnectError", "ReadError",
   "WriteError", "CloseError", "ProtocolError", "LocalProtocolError", "RemoteProtocolError",
   "ProxyError", "UnsupportedProtocol", "DecodingError", "TooManyRedirects", "HTTPStatusError"]

def Raises (e : Thrown) : Transport → Prop
  | .http _ => e.origin = .http ∧ (e.name ∈ httpErrorNames ∨ e.name = "InvalidURL")
  | .ipc _ => e.origin = .process ∨
      (e.origin = .system ∧ (e.name ∈ Thrown.systemNames ∨ e.name = "EOFError"))
  | .sqlite _ => e.origin = .sqlite
  | .duckdb _ => e.origin = .duckdb
  | _ => False

inductive Escapes (e : Thrown) : Transport → Call → Prop
  | unmade (h : Http) (timeout : Value) (verify : Bool) :
    Escapes e (.http h) (.openClient timeout verify)
  | misdirected (h : Http) (c : Call) (name : e.name = "InvalidURL") : Escapes e (.http h) c
  | unauthorized (t : Ipc) (c : Call) (origin : e.origin = .process) : Escapes e (.ipc t) c
  | warned (t : Sqlite) (c : Call) (name : e.name = "Warning") : Escapes e (.sqlite t) c
  | unclosed (t : Sqlite) : Escapes e (.sqlite t) .closeCursor

inductive Wordless [Runtime] (e : Thrown) : Transport → Prop
  | timeout {h : Http} (late : e.isTimeout = true) (textless : ¬ h.timeout.HasText) :
    Wordless e (.http h)
  | address {t : Ipc} (long : ¬ Number.Short t.address.socket) : Wordless e (.ipc t)

def driverMode? : Transport → Option String
  | .http _ => some Http.mode
  | .ipc _ => some Ipc.mode
  | .sqlite _ => some Sqlite.mode
  | .duckdb _ => some Duckdb.mode
  | _ => none

end Transport

def Failure.Names (f : Failure) (mode : String) (e : Thrown) : Prop :=
  ∃ r, f = .reported r ∧ r.kind.isTransport = true ∧ r.transport = .string mode ∧
    r.cause = some (.thrown e)

theorem Failure.ofTransport_names {kind : ErrorKind} (transport : kind.isTransport = true)
    (mode message : String) (e : Thrown) :
    (ofTransport kind mode message (some (.thrown e))).Names mode e :=
  ⟨_, rfl, transport, rfl, rfl⟩

theorem Failure.naming_cases {text : Except Fault String} {failure : String → Failure} :
    (∃ s, text = .ok s ∧ naming text failure = failure s) ∨
      (¬ ∃ s, text = .ok s) ∧ ∃ f, naming text failure = .fault f := by
  cases text with
  | ok s => exact .inl ⟨s, rfl, rfl⟩
  | error f => exact .inr ⟨by simp, f, rfl⟩

structure Wraps (mode : String) (known : Thrown → Bool) (wordless : Thrown → Prop)
    (g : Failure → Failure) : Prop where
  names : ∀ e, known e = true → ¬ wordless e → (g (.thrown e)).Names mode e
  unnamed : ∀ e, known e = true → wordless e → ∃ f, g (.thrown e) = .fault f
  passes : ∀ e, known e = false → g (.thrown e) = .thrown e
  other : ∀ f, (∃ e, f = .thrown e) ∨ g f = f

namespace Wraps

variable {mode : String} {known : Thrown → Bool} {wordless : Thrown → Prop} {g : Failure → Failure}

theorem unreported (mode : String) (wordless : Thrown → Prop) :
    Wraps mode (fun _ => false) wordless id :=
  ⟨nofun, nofun, fun _ _ => rfl, fun _ => .inr rfl⟩

theorem eq_thrown (wraps : Wraps mode known wordless g) {f : Failure} {e : Thrown}
    (same : g f = .thrown e) : f = .thrown e ∧ known e = false := by
  obtain ⟨e', rfl⟩ : ∃ e', f = .thrown e' :=
    (wraps.other f).elim id fun passed => ⟨e, passed.symm.trans same⟩
  cases caught : known e' with
  | true =>
    by_cases silent : wordless e'
    · obtain ⟨fault, failed⟩ := wraps.unnamed e' caught silent
      cases failed.symm.trans same
    · obtain ⟨r, reported, _⟩ := wraps.names e' caught silent
      cases reported.symm.trans same
  | false =>
    cases (wraps.passes e' caught).symm.trans same
    exact ⟨rfl, caught⟩

theorem of_sort {kind : ErrorKind} {message : Thrown → String} (transport : kind.isTransport = true)
    (worded : ∀ e, ¬ wordless e) (thrown : ∀ e, g (.thrown e) =
      if known e then .ofTransport kind mode (message e) (some (.thrown e)) else .thrown e)
    (other : ∀ f, (∃ e, f = .thrown e) ∨ g f = f) : Wraps mode known wordless g where
  names e caught _ := by
    rw [thrown, if_pos caught]
    exact Failure.ofTransport_names transport ..
  unnamed e _ silent := absurd silent (worded e)
  passes e missed := by rw [thrown, if_neg (Bool.eq_false_iff.mp missed)]
  other := other

theorem http [Runtime] (h : Http) : Wraps Http.mode
    (fun e => e.isConnectFailure || e.isTimeout || e.isHttpFailure)
    (Transport.Wordless · (.http h)) h.requestFailure where
  names e caught worded := by
    unfold Http.requestFailure
    dsimp only
    split
    · exact Failure.ofTransport_names rfl ..
    · split
      · rename_i late
        obtain ⟨s, -, named⟩ | ⟨textless, -⟩ := Failure.naming_cases
        · rw [named]
          exact Failure.ofTransport_names rfl ..
        · exact absurd (.timeout late (mt Value.text_exists_iff.mpr textless)) worded
      · split
        · exact Failure.ofTransport_names rfl ..
        · simp_all
  unnamed e _ silent := by
    cases silent with
    | timeout late textless =>
      have reached : e.isConnectFailure = false := by
        have named : e.name ≠ "ConnectError" := by
          rintro same
          simp [Thrown.isTimeout, same, Thrown.timeoutNames] at late
        simp [Thrown.isConnectFailure, named]
      simp only [Http.requestFailure, reached, late, Bool.false_eq_true, if_false, if_true]
      obtain ⟨s, written, -⟩ | ⟨-, failed⟩ := Failure.naming_cases
      · exact absurd (Value.text_exists_iff.mp ⟨s, written⟩) textless
      · exact failed
  passes e missed := by
    simp only [Bool.or_eq_false_iff] at missed
    simp only [Http.requestFailure, missed, Bool.false_eq_true, if_false]
  other f := by
    cases f with
    | thrown e => exact .inl ⟨e, rfl⟩
    | _ => exact .inr rfl

theorem addressText_exists_iff {t : Ipc} :
    (∃ s, t.addressText = .ok s) ↔ Number.Short t.address.socket := by
  simp only [Ipc.addressText, Except.bind_ok_iff, Number.wholeText_ok_iff]
  constructor
  · rintro ⟨_, _, ⟨short, -⟩, -⟩
    exact short
  · intro short
    exact ⟨_, _, ⟨short, rfl⟩, rfl⟩

theorem ipc [Runtime] (t : Ipc) :
    Wraps Ipc.mode Thrown.isChannelFailure (Transport.Wordless · (.ipc t)) t.askFailure where
  names e caught worded := by
    simp only [Ipc.askFailure, caught, if_true]
    obtain ⟨s, -, named⟩ | ⟨textless, -⟩ := Failure.naming_cases
    · rw [named]
      exact Failure.ofTransport_names rfl ..
    · exact absurd (.address (mt addressText_exists_iff.mpr textless)) worded
  unnamed e caught silent := by
    cases silent with
    | address long =>
      simp only [Ipc.askFailure, caught, if_true]
      obtain ⟨s, written, -⟩ | ⟨-, failed⟩ := Failure.naming_cases
      · exact absurd (addressText_exists_iff.mp ⟨s, written⟩) long
      · exact failed
  passes e missed := by simp only [Ipc.askFailure, missed, Bool.false_eq_true, if_false]
  other f := by
    cases f with
    | thrown e => exact .inl ⟨e, rfl⟩
    | _ => exact .inr rfl

theorem sqlite (worded : ∀ e, ¬ wordless e) :
    Wraps Sqlite.mode Thrown.isSqliteFailure wordless Sqlite.connectFailure ∧
    Wraps Sqlite.mode Thrown.isSqliteFailure wordless Sqlite.queryFailure := by
  constructor <;> refine of_sort rfl worded (fun e => rfl) ?_
  all_goals
    intro f
    cases f with
    | thrown e => exact .inl ⟨e, rfl⟩
    | _ => exact .inr rfl

theorem duckdb (worded : ∀ e, ¬ wordless e) :
    Wraps Duckdb.mode Thrown.isDuckdbFailure wordless Duckdb.connectFailure ∧
    Wraps Duckdb.mode Thrown.isDuckdbFailure wordless Duckdb.queryFailure := by
  constructor <;> refine of_sort rfl worded (fun e => rfl) ?_
  all_goals
    intro f
    cases f with
    | thrown e => exact .inl ⟨e, rfl⟩
    | _ => exact .inr rfl

end Wraps

namespace Transport

/-- The exceptions that the code around a call looks for. -/
def catches : Transport → Call → Thrown → Bool
  | .http _, .openClient .. => fun _ => false
  | .http _, _ => fun e => e.isConnectFailure || e.isTimeout || e.isHttpFailure
  | .ipc _, _ => Thrown.isChannelFailure
  | .sqlite _, .closeCursor => fun _ => false
  | .sqlite _, _ => Thrown.isSqliteFailure
  | .duckdb _, _ => Thrown.isDuckdbFailure
  | _, _ => fun _ => false

theorem report_wraps [Runtime] {t : Transport} {mode : String} (talks : t.driverMode? = some mode)
    (c : Call) : Wraps mode (t.catches c) (Wordless · t) (t.report c) := by
  cases t with
  | custom => cases talks
  | function => cases talks
  | http h =>
    cases talks
    cases c with
    | openClient => exact .unreported _ _
    | _ => exact .http h
  | ipc t =>
    cases talks
    exact .ipc t
  | sqlite t =>
    cases talks
    have worded : ∀ e, ¬ Wordless e (.sqlite t) := nofun
    cases c with
    | openSqlite => exact (Wraps.sqlite worded).1
    | closeCursor => exact .unreported _ _
    | _ => exact (Wraps.sqlite worded).2
  | duckdb t =>
    cases talks
    have worded : ∀ e, ¬ Wordless e (.duckdb t) := nofun
    cases c with
    | openDuckdb => exact (Wraps.duckdb worded).1
    | _ => exact (Wraps.duckdb worded).2

theorem Raises.mode {e : Thrown} {t : Transport} (raised : Raises e t) :
    ∃ mode, t.driverMode? = some mode := by
  cases t with
  | custom | function => cases raised
  | _ => exact ⟨_, rfl⟩

theorem isHttpFailure_of_mem {e : Thrown} (origin : e.origin = .http)
    (name : e.name ∈ httpErrorNames) : e.isHttpFailure = true := by
  have apart : ∀ name ∈ httpErrorNames, Thrown.httpMisuseNames.contains name = false := by decide
  simp only [Thrown.isHttpFailure, origin, apart e.name name, beq_self_eq_true, Bool.not_false,
    Bool.and_true]

theorem catches_of_escapes {e : Thrown} {t : Transport} {c : Call} (escapes : Escapes e t c) :
    t.catches c e = false := by
  cases escapes with
  | unmade => rfl
  | misdirected h c name =>
    have strange : (e.isConnectFailure || e.isTimeout || e.isHttpFailure) = false := by
      simp [Thrown.isConnectFailure, Thrown.isTimeout, Thrown.isHttpFailure, name,
        Thrown.timeoutNames, Thrown.httpMisuseNames]
    cases c with
    | openClient => rfl
    | _ => exact strange
  | unauthorized t c origin => simp [catches, Thrown.isChannelFailure, origin]
  | warned t c name =>
    have strange : e.isSqliteFailure = false := by simp [Thrown.isSqliteFailure, name]
    cases c with
    | closeCursor => rfl
    | _ => exact strange
  | unclosed => rfl

theorem escapes_of_catches {e : Thrown} {t : Transport} {c : Call} (raised : Raises e t)
    (missed : t.catches c e = false) : Escapes e t c := by
  cases t with
  | custom => cases raised
  | function => cases raised
  | http h =>
    obtain ⟨origin, listed | name⟩ := raised
    · have caught := isHttpFailure_of_mem origin listed
      cases c with
      | openClient timeout verify => exact .unmade h timeout verify
      | _ => simp [catches, caught] at missed
    · exact .misdirected h c name
  | ipc t =>
    rcases raised with origin | ⟨origin, name⟩
    · exact .unauthorized t c origin
    · have caught : e.isChannelFailure = true := by
        simpa [Thrown.isChannelFailure, origin] using name
      cases caught.symm.trans missed
  | sqlite t =>
    have origin : e.origin = .sqlite := raised
    have warned (missed : e.isSqliteFailure = false) : e.name = "Warning" := by
      simpa [Thrown.isSqliteFailure, origin] using missed
    cases c with
    | closeCursor => exact .unclosed t
    | _ => exact .warned t _ (warned missed)
  | duckdb t =>
    have origin : e.origin = .duckdb := raised
    have caught : e.isDuckdbFailure = true := by simp [Thrown.isDuckdbFailure, origin]
    cases caught.symm.trans missed

/-- What a sending reports, from any state of any transport and whatever its calls are answered.
The last call that failed decides: what its driver raised there is named by an error of the
transport, unless it is one of those that escape or the report of it cannot be put into words; and
nothing else that a driver raises escapes. -/
theorem driver_failures_surface [Runtime] {W : Type} (o : Outside W) (t : Transport) (sql : String)
    (x : Exchange W) :
    ∃ result t' turns y, o.Settles Prod.snd (send o sql) (t, x) result turns (t', y) ∧
      (∀ c e, lastFailure? turns = some (c, .thrown e) → Raises e t →
        (Escapes e t c ∧ result = .error (.thrown e)) ∨
        (¬ Escapes e t c ∧ Wordless e t ∧ ∃ f, result = .error (.fault f)) ∨
        (¬ Escapes e t c ∧ ¬ Wordless e t ∧ ∃ f mode, result = .error f ∧
          t.driverMode? = some mode ∧ f.Names mode e)) ∧
      ∀ e, result = .error (.thrown e) → Raises e t →
        ∃ c, lastFailure? turns = some (c, .thrown e) ∧ Escapes e t c := by
  obtain ⟨result, t', turns, y, sent, course⟩ := send_settles o t sql x
  have told := course.surfaces
  unfold Surfaces at told
  refine ⟨result, t', turns, y, sent, ?_, ?_⟩
  · intro c e last raised
    rw [last] at told
    obtain ⟨mode, talks⟩ := raised.mode
    have wraps := report_wraps talks c
    cases caught : t.catches c e with
    | true =>
      have reported : ¬ Escapes e t c := fun escapes =>
        nomatch caught.symm.trans (catches_of_escapes escapes)
      by_cases silent : Wordless e t
      · obtain ⟨f, failed⟩ := wraps.unnamed e caught silent
        exact .inr (.inl ⟨reported, silent, f, failed ▸ told⟩)
      · exact .inr (.inr ⟨reported, silent, _, mode, told, talks, wraps.names e caught silent⟩)
    | false =>
      refine .inl ⟨escapes_of_catches raised caught, ?_⟩
      rw [told, wraps.passes e caught]
  · intro e thrown raised
    obtain ⟨mode, talks⟩ := raised.mode
    cases last : lastFailure? turns with
    | none =>
      rw [last] at told
      exact absurd thrown (told e)
    | some failed =>
      obtain ⟨c, f⟩ := failed
      rw [last] at told
      have given := Except.error.inj (told.symm.trans thrown)
      obtain ⟨rfl, missed⟩ := (report_wraps talks c).eq_thrown given
      exact ⟨c, rfl, escapes_of_catches raised missed⟩

def invalidUrl : Thrown := ⟨.http, "InvalidURL", "Invalid port: 'port'"⟩

def misdirectedClient : Exchange Script :=
  ⟨Script.ofReplies [{ failure := some (.thrown invalidUrl) }], []⟩

open Runtime.Usual in
theorem invalid_url_unreported :
    ∃ h s, Http.make { url := "http://localhost:port" } = .ok h ∧ Raises invalidUrl (.http h) ∧
      send scripted "SELECT 1" (.http h, misdirectedClient) = .error (.thrown invalidUrl) s :=
  ⟨_, _, rfl, ⟨rfl, .inr rfl⟩, rfl⟩

open Runtime.Usual in
theorem invalid_url_escapes :
    ∃ h s c, Http.make { url := "http://localhost:port" } = .ok h ∧
      send scripted "SELECT 1" (.http h, misdirectedClient) = .error (.thrown invalidUrl) s ∧
      Escapes invalidUrl (.http h) c := by
  obtain ⟨h, s, made, failed⟩ : ∃ h s, Http.make { url := "http://localhost:port" } = .ok h ∧
      send scripted "SELECT 1" (.http h, misdirectedClient) = .error (.thrown invalidUrl) s :=
    ⟨_, _, rfl, rfl⟩
  obtain ⟨result, t', turns, y, sent, _, escaped⟩ :=
    driver_failures_surface scripted (.http h) "SELECT 1" misdirectedClient
  have run := sent.run.symm.trans failed
  cases result with
  | ok v => cases run
  | error f =>
    cases run
    obtain ⟨c, _, escapes⟩ := escaped invalidUrl rfl ⟨rfl, .inr rfl⟩
    exact ⟨h, _, c, made, failed, escapes⟩

end Transport
end PagedQuery
