import PagedQuery.Proofs.Json.Contents
import PagedQuery.Proofs.Json.Nesting
import PagedQuery.Proofs.Transport.Course
import PagedQuery.Script

/-! Answers over HTTP, read by one table: which rows an answer holds, and what a refusal is
reported as. The table has a line for every response; the lines that are no errors of the transport
are those of bodies that cannot be decoded, or lie too deep to be read or shown. -/
namespace PagedQuery

inductive Carries : Value → Value → Prop
  | response {fields : Fields} {v : Value} (found : Entries.find? "response" fields = some v) :
    Carries (.object fields) v
  | rows {fields : Fields} {v : Value} (other : Entries.find? "response" fields = none)
    (found : Entries.find? "rows" fields = some v) : Carries (.object fields) v
  | object {fields : Fields} (noResponse : Entries.find? "response" fields = none)
    (noRows : Entries.find? "rows" fields = none) : Carries (.object fields) (.object fields)
  | plain {v : Value} (noObject : ∀ fields, v ≠ .object fields) : Carries v v

theorem carries_iff (v w : Value) : Carries v w ↔ w = Http.payload v := by
  constructor
  · intro carries
    cases carries with
    | response found => simp only [Http.payload, found]
    | rows other found => simp only [Http.payload, other, found]
    | object noResponse noRows => simp only [Http.payload, noResponse, noRows]
    | plain noObject =>
      cases v with
      | object fields => exact absurd rfl (noObject fields)
      | _ => rfl
  · rintro rfl
    cases v with
    | object fields =>
      cases response : Entries.find? "response" fields with
      | some w =>
        simp only [Http.payload, response]
        exact .response response
      | none =>
        cases rows : Entries.find? "rows" fields with
        | some w =>
          simp only [Http.payload, response, rows]
          exact .rows response rows
        | none =>
          simp only [Http.payload, response, rows]
          exact .object response rows
    | _ => exact .plain nofun

namespace Response

def Succeeds (r : Response) : Prop := 200 ≤ r.status ∧ r.status ≤ 299

theorem isSuccess_iff (r : Response) : Http.isSuccess r = true ↔ r.Succeeds := by
  simp [Http.isSuccess, Succeeds]

theorem status_decompressed {r d : Response} (whole : r.decompressed = .ok d) :
    d.status = r.status := by
  unfold decompressed at whole
  split at whole
  · cases whole
    rfl
  · cases whole

end Response

/-- What a refusal is told by: what the server says, which is logged first. -/
def Http.told [Runtime] (r : Response) : Except Failure Value := do
  let message ← refusalMessage r
  discard ((logLine r message).mapError Failure.fault)
  pure message

namespace Response

variable [Runtime] {r : Response}

def IsJson (r : Response) (v : Value) : Prop := Json.readBytes Runtime.readDepth r.body = .ok v

def NotJson (r : Response) (o : Json.Obstacle) : Prop :=
  Json.readBytes Runtime.readDepth r.body = .error o ∧ o.isDepth = false

/-- The body holds lists or objects inside one another beyond what is read. -/
def TooDeep (r : Response) : Prop :=
  ∃ o, Json.readBytes Runtime.readDepth r.body = .error o ∧ o.isDepth = true

theorem readBody_json {v : Value} (json : r.IsJson v) : Http.readBody r = .ok (.ok v) := by
  rw [Http.readBody, json]

theorem readBody_notJson {o : Json.Obstacle} (notJson : r.NotJson o) :
    Http.readBody r = .ok (.error o) := by
  simp only [Http.readBody, notJson.1, notJson.2, Bool.false_eq_true, if_false]

theorem readBody_tooDeep (deep : r.TooDeep) : Http.readBody r = .error (.fault .tooDeep) := by
  obtain ⟨o, unread, depth⟩ := deep
  simp only [Http.readBody, unread, depth, if_true]

theorem body_cases (r : Response) :
    (∃ v, r.IsJson v) ∨ (∃ o, r.NotJson o) ∨ r.TooDeep := by
  cases read : Json.readBytes Runtime.readDepth r.body with
  | ok v => exact .inl ⟨v, read⟩
  | error o =>
    cases depth : o.isDepth with
    | false => exact .inr (.inl ⟨o, read, depth⟩)
    | true => exact .inr (.inr ⟨o, read, depth⟩)

theorem text_error {f : Failure} (failed : r.text = .error f) : ∃ e, f = .fault e := by
  unfold text at failed
  split at failed
  · cases failed
  · cases undecoded : r.decoder r.body with
    | ok s =>
      rw [undecoded] at failed
      cases failed
    | error e =>
      rw [undecoded] at failed
      cases failed
      exact ⟨e, rfl⟩

/-- What is read can be written, unless it lies too deep for that. -/
theorem IsJson.text_cases {v : Value} (json : r.IsJson v) :
    (∃ s, v.text = .ok s) ∨ v.text = .error .tooDeep := by
  cases shown : v.text with
  | ok s => exact .inl ⟨s, rfl⟩
  | error f =>
    rcases Value.text_error shown with rfl | ⟨-, never⟩
    · exact .inr rfl
    · exact absurd (Json.readBytes_writable json) (never _)

inductive Explains (r : Response) : Value → Prop
  | detail {fields : Fields} {v : Value} {whole : String} (json : r.IsJson (.object fields))
    (shown : (Value.object fields).text = .ok whole)
    (found : Entries.find? "detail" fields = some v) : Explains r v
  | object {fields : Fields} {whole : String} (json : r.IsJson (.object fields))
    (shown : (Value.object fields).text = .ok whole)
    (absent : Entries.find? "detail" fields = none) : Explains r (.string whole)
  | value {v : Value} {whole : String} (json : r.IsJson v) (shown : v.text = .ok whole)
    (noObject : ∀ fields, v ≠ .object fields) : Explains r (.string whole)
  | text {o : Json.Obstacle} {s : String} (notJson : r.NotJson o) (text : r.text = .ok s)
    (nonempty : s ≠ "") : Explains r (.string s)
  | nothing {o : Json.Obstacle} (notJson : r.NotJson o) (text : r.text = .ok "") :
    Explains r (.string ("HTTP " ++ Number.intText r.status))

inductive Message (r : Response) : Except Failure Value → Prop
  | said {message : Value} (explains : r.Explains message) (short : Number.Short r.status) :
    Message r (.ok message)
  | unnumbered {message : Value} (explains : r.Explains message) (long : ¬ Number.Short r.status) :
    Message r (.error (.fault .wrongValue))
  | undecoded {o : Json.Obstacle} {f : Failure} (notJson : r.NotJson o)
    (undecoded : r.text = .error f) : Message r (.error f)
  | tooDeep (deep : r.TooDeep) : Message r (.error (.fault .tooDeep))
  | unshown {v : Value} (json : r.IsJson v) (deep : v.text = .error .tooDeep) :
    Message r (.error (.fault .tooDeep))

/-- Whatever is said has a text: a value has one wherever what it lies in has one. -/
theorem Explains.shown {message : Value} (explains : r.Explains message) :
    ∃ s, message.text = .ok s := by
  cases explains with
  | detail json shown found =>
    obtain ⟨before, after, rfl, -⟩ := Entries.find?_eq_some found
    cases Value.text_exists_iff.mp ⟨_, shown⟩ with
    | object each =>
      have inside := each _ (List.mem_append_right _ List.mem_cons_self)
      exact Value.text_exists_iff.mpr (inside.mono (Nat.le_succ _))
  | _ => exact ⟨_, rfl⟩

theorem told_of_message {message : Value} {s : String}
    (said : Http.refusalMessage r = .ok message) (shown : message.text = .ok s) :
    Http.told r = if Number.Short r.status then .ok message else .error (.fault .wrongValue) := by
  rw [Http.told, said]
  by_cases short : Number.Short r.status
  · simp only [Http.logLine, Number.wholeText_short short, shown, bind, Except.bind, if_pos short]
    rfl
  · simp only [Http.logLine, Number.wholeText_long short, bind, Except.bind, if_neg short]
    rfl

theorem Explains.told {message : Value} (explains : r.Explains message) :
    Http.told r = if Number.Short r.status then .ok message else .error (.fault .wrongValue) := by
  obtain ⟨s, written⟩ := explains.shown
  cases explains with
  | detail json shown found =>
    refine told_of_message ?_ written
    simp only [Http.refusalMessage, readBody_json json, bind, Except.bind, shown, found]
    rfl
  | object json shown absent =>
    refine told_of_message ?_ written
    simp only [Http.refusalMessage, readBody_json json, bind, Except.bind, shown, absent]
    rfl
  | @value v whole json shown noObject =>
    refine told_of_message ?_ written
    simp only [Http.refusalMessage, readBody_json json, bind, Except.bind, shown]
    cases v with
    | object fields => exact absurd rfl (noObject fields)
    | _ => rfl
  | text notJson text nonempty =>
    refine told_of_message ?_ written
    simp only [Http.refusalMessage, readBody_notJson notJson, bind, Except.bind, Http.plainMessage,
      text, String.isEmpty_iff, nonempty, if_false]
    rfl
  | nothing notJson text =>
    have plain : Http.refusalMessage r = (Number.wholeText r.status).mapError Failure.fault >>=
        fun status => .ok (.string ("HTTP " ++ status)) := by
      simp only [Http.refusalMessage, readBody_notJson notJson, bind, Except.bind,
        Http.plainMessage, text]
      rfl
    by_cases short : Number.Short r.status
    · rw [Number.wholeText_short short] at plain
      exact told_of_message plain written
    · -- without a text of the status there is not even a message
      rw [Number.wholeText_long short] at plain
      rw [Http.told, plain, if_neg short]
      rfl

theorem told_message (r : Response) : r.Message (Http.told r) := by
  have whole {message : Value} (explains : r.Explains message) : r.Message (Http.told r) := by
    rw [explains.told]
    split
    · exact .said explains ‹_›
    · exact .unnumbered explains ‹_›
  rcases r.body_cases with ⟨v, json⟩ | ⟨o, notJson⟩ | deep
  · rcases json.text_cases with ⟨s, shown⟩ | unshown
    · cases v with
      | object fields =>
        cases found : Entries.find? "detail" fields with
        | some v => exact whole (.detail json shown found)
        | none => exact whole (.object json shown found)
      | _ => exact whole (.value json shown nofun)
    · have untold : Http.told r = .error (.fault .tooDeep) := by
        simp only [Http.told, Http.refusalMessage, readBody_json json, unshown, bind, Except.bind]
        rfl
      rw [untold]
      exact .unshown json unshown
  · cases text : r.text with
    | error f =>
      have untold : Http.told r = .error f := by
        simp only [Http.told, Http.refusalMessage, readBody_notJson notJson, Http.plainMessage,
          text, bind, Except.bind]
      rw [untold]
      exact .undecoded notJson text
    | ok s =>
      by_cases empty : s = ""
      · subst empty
        exact whole (.nothing notJson text)
      · exact whole (.text notJson text empty)
  · have untold : Http.told r = .error (.fault .tooDeep) := by
      rw [Http.told, Http.refusalMessage, readBody_tooDeep deep]
      rfl
    rw [untold]
    exact .tooDeep deep

theorem message_of_text {s : String}
    (shown : (Http.told r).toOption.bind (fun message => message.text.toOption) = some s) :
    ∃ message, r.Message (.ok message) ∧ message.text = .ok s := by
  have told := r.told_message
  cases read : Http.told r with
  | error f =>
    rw [read] at shown
    cases shown
  | ok message =>
    rw [read] at shown told
    refine ⟨message, told, ?_⟩
    cases written : message.text with
    | error f => simp [Except.toOption, written] at shown
    | ok s' => simpa [Except.toOption, written] using shown

theorem Message.eq {x : Except Failure Value} (told : r.Message x) : Http.told r = x := by
  cases told with
  | said explains short => rw [explains.told, if_pos short]
  | unnumbered explains long => rw [explains.told, if_neg long]
  | undecoded notJson undecoded =>
    simp only [Http.told, Http.refusalMessage, readBody_notJson notJson, Http.plainMessage,
      undecoded, bind, Except.bind]
  | tooDeep deep =>
    rw [Http.told, Http.refusalMessage, readBody_tooDeep deep]
    rfl
  | unshown json deep =>
    simp only [Http.told, Http.refusalMessage, readBody_json json, deep, bind, Except.bind]
    rfl

end Response

namespace Http

def refusalKind (status : Int) : ErrorKind :=
  if status = 401 ∨ status = 403 then .authentication
  else if status = 400 then .query
  else .transport

def refused (status : Int) (message : Value) : Report where
  kind := refusalKind status
  message := message
  transport := .string "http"
  status := .int status

variable [Runtime]

inductive Decodes (endpoint : String) (r : Response) : Except Failure Value → Prop
  | rows {v : Value} {items : List Value} (success : r.Succeeds) (json : r.IsJson v)
    (carries : Carries v (.list items)) : Decodes endpoint r (.ok (.list items))
  | noRows {v w : Value} (success : r.Succeeds) (json : r.IsJson v) (carries : Carries v w)
    (noList : ∀ items, w ≠ .list items) : Decodes endpoint r (.error (.reported {
      kind := .query
      message := .string ("Expected a list of rows from " ++ endpoint ++ ", got " ++ w.typeName)
      transport := .string "http" }))
  | notJson {o : Json.Obstacle} (success : r.Succeeds) (notJson : r.NotJson o) :
    Decodes endpoint r (.error (.reported {
      kind := .query
      message := .string ("Response from " ++ endpoint ++ " is not JSON: " ++ o.message)
      transport := .string "http"
      status := .int r.status
      cause := some (.notJson o) }))
  | tooDeep (success : r.Succeeds) (deep : r.TooDeep) :
    Decodes endpoint r (.error (.fault .tooDeep))
  | refused {message : Value} (failure : ¬ r.Succeeds) (said : r.Message (.ok message)) :
    Decodes endpoint r (.error (.reported (Http.refused r.status message)))
  | untold {f : Failure} (failure : ¬ r.Succeeds) (untold : r.Message (.error f)) :
    Decodes endpoint r (.error f)

theorem refusal_ordinary {r : Response} (ordinary : r.status ≠ 429) :
    refusal r = told r >>= fun message => .ok (refused r.status message) := by
  have notWait : r.status ≠ Report.tooManyRequests := ordinary
  unfold refusal told refused refusalKind
  cases refusalMessage r with
  | error f => rfl
  | ok message =>
    simp only [bind, Except.bind]
    cases discard ((logLine r message).mapError Failure.fault) with
    | error f => rfl
    | ok _ =>
      simp only [notWait, if_false]
      split
      · rfl
      · split <;> rfl

section Rows

variable {h : Http} {r : Response}

theorem rows_success (success : r.Succeeds) : h.rows r = readBody r >>= fun
    | .error o => .error (.reported {
        kind := .query
        message := .string ("Response from " ++ h.endpoint ++ " is not JSON: " ++ o.message)
        transport := .string mode
        status := .int r.status
        cause := some (.notJson o) })
    | .ok v => match payload v with
      | .list items => .ok (.list items)
      | w => .error (.ofTransport .query mode
          ("Expected a list of rows from " ++ h.endpoint ++ ", got " ++ w.typeName) none) := by
  rw [rows, if_pos ((Response.isSuccess_iff r).mpr success)]
  rfl

theorem rows_failure (failure : ¬ r.Succeeds) :
    h.rows r = refusal r >>= fun report => .error (.reported report) := by
  rw [rows, if_neg (mt (Response.isSuccess_iff r).mp failure)]
  rfl

theorem rows_decodes (h : Http) (ordinary : r.status ≠ 429) : Decodes h.endpoint r (h.rows r) := by
  by_cases success : r.Succeeds
  · rw [rows_success success]
    rcases r.body_cases with ⟨v, json⟩ | ⟨o, notJson⟩ | deep
    · rw [Response.readBody_json json]
      simp only [bind, Except.bind]
      have carries := (carries_iff v _).mpr rfl
      cases carried : payload v with
      | list items =>
        rw [carried] at carries
        exact .rows success json carries
      | _ =>
        rw [carried] at carries
        exact .noRows success json carries nofun
    · rw [Response.readBody_notJson notJson]
      exact .notJson success notJson
    · rw [Response.readBody_tooDeep deep]
      exact .tooDeep success deep
  · rw [rows_failure success, refusal_ordinary ordinary]
    have said := Response.told_message r
    cases told : told r with
    | error f =>
      rw [told] at said
      exact .untold success said
    | ok message =>
      rw [told] at said
      exact .refused success said

theorem Decodes.eq (ordinary : r.status ≠ 429) {x : Except Failure Value}
    (decodes : Decodes h.endpoint r x) : h.rows r = x := by
  cases decodes with
  | rows success json carries =>
    rw [rows_success success, Response.readBody_json json]
    simp only [bind, Except.bind, ← (carries_iff _ _).mp carries]
  | @noRows v w success json carries noList =>
    rw [rows_success success, Response.readBody_json json]
    simp only [bind, Except.bind, ← (carries_iff _ _).mp carries]
    cases w with
    | list items => exact absurd rfl (noList items)
    | _ => rfl
  | notJson success notJson =>
    rw [rows_success success, Response.readBody_notJson notJson]
    rfl
  | tooDeep success deep =>
    rw [rows_success success, Response.readBody_tooDeep deep]
    rfl
  | refused failure said =>
    rw [rows_failure failure, refusal_ordinary ordinary, said.eq]
    rfl
  | untold failure untold =>
    rw [rows_failure failure, refusal_ordinary ordinary, untold.eq]
    rfl

theorem rows_iff_decodes (h : Http) (ordinary : r.status ≠ 429) (x : Except Failure Value) :
    h.rows r = x ↔ Decodes h.endpoint r x := by
  constructor
  · rintro rfl
    exact rows_decodes h ordinary
  · exact Decodes.eq ordinary

end Rows

inductive Answered {W : Type} (o : Outside W) (h : Http) (sql : String) (w : W) (r : Response) :
    Prop
  | held {w' : W} (present : h.client ≠ .none)
    (said : o.answer (h.delivery sql) w = (.ok r, w')) : Answered o h sql w r
  | made {between w' : W} (absent : h.client = .none)
    (opened : o.answer (.openClient h.timeout h.verify) w = (.ok (), between))
    (said : o.answer (h.delivery sql) between = (.ok r, w')) : Answered o h sql w r

theorem received_response (h : Http) (r : Response) :
    h.received (.ok r) = r.decompressed.mapError h.requestFailure >>= h.rows := rfl

theorem received_damaged (h : Http) {r : Response} {f : Failure}
    (damaged : r.decompressed = .error f) :
    h.received (.ok r) = .error (h.requestFailure f) := by
  rw [received_response, damaged]
  rfl

theorem received_whole (h : Http) {r d : Response} (whole : r.decompressed = .ok d) :
    h.received (.ok r) = h.rows d := by
  rw [received_response, whole]
  rfl

end Http

def Value.string? : Value → Option String
  | string s => some s
  | _ => none

/-- An error with a number as its status shows the number, unless it is zero. -/
theorem Report.text?_status [Runtime] {report : Report} (transport : report.kind.isTransport = true)
    {n : Int} (status : report.status = .int n) (short : Number.Short n) {s : String}
    (shown : report.message.text = .ok s) : report.text? =
      if n = 0 then report.message.string? else some ("[" ++ Number.intText n ++ "] " ++ s) := by
  by_cases zero : n = 0
  · simp only [text?, transport, status, zero, Value.isEmpty, beq_self_eq_true, Bool.not_true,
      Bool.and_false, Bool.false_eq_true, if_false, if_true]
    cases report.message <;> rfl
  · have number : (Value.int n).text = .ok (Number.intText n) := Number.wholeText_short short
    simp [text?, transport, status, zero, Value.isEmpty, number, shown]

theorem Http.make_default : ∃ h, Http.make {} = .ok h ∧ h.client = .none := ⟨_, rfl, rfl⟩

theorem Http.refused_isTransport (status : Int) (message : Value) :
    (Http.refused status message).kind.isTransport = true := by
  unfold refused refusalKind
  dsimp only
  split
  · rfl
  · split <;> rfl

namespace Transport

section Answers

variable [Runtime] {W : Type} {o : Outside W} {h : Http} {sql : String} {x : Exchange W}
  {r : Response}

theorem send_answered (answered : Http.Answered o h sql x.world r) :
    ∃ s, send o sql (.http h, x) = Act.settled (h.received (.ok r)) s := by
  obtain ⟨result, t', turns, y, sent, course⟩ := send_settles o (.http h) sql x
  suffices result = h.received (.ok r) from ⟨(t', y), this ▸ sent.run⟩
  have given := sent.answered
  cases course with
  | unopened opening =>
    cases opening with
    | failed due f =>
      cases lacks_of_opening? due with
      | client absent =>
        cases given with
        | cons here later =>
          cases answered with
          | held present => exact absurd absent present
          | made _ opened => cases (Prod.ext_iff.mp (here.symm.trans opened)).1
  | talked opening talk =>
    cases talk with
    | http h answer =>
      suffices answer = .ok r by rw [this]
      cases opening with
      | needless nothing =>
        cases given with
        | cons here later =>
          cases answered with
          | held present said => exact (Prod.ext_iff.mp (here.symm.trans said)).1
          | made absent => simp [opening?, absent] at nothing
      | done due opened =>
        cases lacks_of_opening? due with
        | client absent =>
          rcases given with _ | ⟨first, _ | ⟨here, later⟩⟩
          cases answered with
          | held present => exact absurd absent present
          | made _ opened said =>
            cases (Prod.ext_iff.mp (first.symm.trans opened)).2
            exact (Prod.ext_iff.mp (here.symm.trans said)).1

theorem send_whole (answered : Http.Answered o h sql x.world r) {d : Response}
    (whole : r.decompressed = .ok d) :
    ∃ s, send o sql (.http h, x) = Act.settled (h.rows d) s :=
  h.received_whole whole ▸ send_answered answered

/-- Every response that asks for no waiting is read by the table of answers, and by it alone. A
refusal shows its status, unless that is zero, before what the server says. A body that cannot be
decompressed is a failed request. -/
theorem responses_decoded_by_table (answered : Http.Answered o h sql x.world r)
    (ordinary : r.status ≠ 429) :
    ∃ result s, send o sql (.http h, x) = Act.settled result s ∧
      (∀ f, r.decompressed = .error f → result = .error (h.requestFailure f)) ∧
      ∀ d, r.decompressed = .ok d → d.status = r.status ∧
        (∀ y, result = y ↔ Http.Decodes h.endpoint d y) ∧
        ∀ report, result = .error (.reported report) → ¬ d.Succeeds →
          ∃ s, report.message.text = .ok s ∧ report.text? =
            if r.status = 0 then report.message.string?
            else some ("[" ++ Number.intText r.status ++ "] " ++ s) := by
  obtain ⟨s, sent⟩ := send_answered answered
  refine ⟨_, s, sent, fun f => h.received_damaged, fun d whole => ?_⟩
  have status := Response.status_decompressed whole
  have table := h.rows_iff_decodes (r := d) (status ▸ ordinary)
  rw [h.received_whole whole]
  refine ⟨status, table, fun report reported failure => ?_⟩
  cases (table _).mp reported with
  | noRows success => exact absurd success failure
  | notJson success => exact absurd success failure
  | refused _ told =>
    cases told with
    | said explains short =>
      obtain ⟨s, shown⟩ := explains.shown
      exact ⟨s, shown, Report.text?_status (Http.refused_isTransport d.status _)
        (congrArg Value.int status) (status ▸ short) shown⟩
  | untold _ told =>
    cases told with
    | undecoded _ undecoded =>
      obtain ⟨e, same⟩ := Response.text_error undecoded
      cases same

end Answers

def answersOnce (r : Response) : Exchange Script := ⟨Script.ofReplies [{ response := r }], []⟩

theorem answered_once {h : Http} (absent : h.client = .none) (sql : String) (r : Response) :
    Http.Answered scripted h sql (answersOnce r).world r :=
  .made absent rfl rfl

def busy : Response :=
  ⟨503, [], "\x7b\"detail\": [7]\x7d".toList.map fun c => UInt8.ofNat c.toNat⟩

open Runtime.Usual in
theorem busy_server_reported :
    ∃ h report s, Http.make {} = .ok h ∧
      send scripted "SELECT 1" (.http h, answersOnce busy) = .error (.reported report) s ∧
      report.text? = some "[503] [7]" := by
  obtain ⟨h, made, absent⟩ := Http.make_default
  obtain ⟨result, s, sent, _, whole⟩ :=
    responses_decoded_by_table (answered_once absent "SELECT 1" busy) (by decide)
  obtain ⟨status, table, shown⟩ := whole busy rfl
  obtain ⟨message, told, text⟩ : ∃ message, busy.Message (.ok message) ∧ message.text = .ok "[7]" :=
    Response.message_of_text (by decide +kernel)
  have failure : ¬ busy.Succeeds := by simp [Response.Succeeds, busy]
  have refused := (table _).mpr (.refused failure told)
  rw [refused] at sent
  obtain ⟨_, same, telling⟩ := shown _ refused failure
  cases text.symm.trans same
  exact ⟨h, _, s, made, sent, telling⟩

def nested (status : Int) (n : Nat) : Response := ⟨status, [], List.replicate n 0x5b⟩

theorem nested_tooDeep [Runtime] (status : Int) {n : Nat} (deep : Runtime.readDepth < n)
    (long : 4 ≤ n) : (nested status n).TooDeep := by
  have unread := Json.readBytes_brackets [] deep long rfl
  rwa [List.append_nil] at unread

theorem nested_succeeds (status : Int) (n : Nat) :
    (nested status n).Succeeds ↔ 200 ≤ status ∧ status ≤ 299 := .rfl

theorem send_nested [Runtime] {h : Http} (absent : h.client = .none) (sql : String) (status : Int)
    {n : Nat} (failure : ¬ (nested status n).Succeeds) (ordinary : status ≠ 429)
    (deep : Runtime.readDepth < n) (long : 4 ≤ n) :
    ∃ s, send scripted sql (.http h, answersOnce (nested status n)) =
      .error (.fault .tooDeep) s := by
  have whole : (nested status n).decompressed = .ok (nested status n) := rfl
  obtain ⟨s, sent⟩ := send_whole (answered_once absent sql (nested status n)) whole
  have untold : Http.Decodes h.endpoint (nested status n) (.error (.fault .tooDeep)) :=
    .untold failure (.tooDeep (nested_tooDeep status deep long))
  rw [(h.rows_iff_decodes ordinary _).mpr untold] at sent
  exact ⟨s, sent⟩

open Runtime.Usual in
theorem nested_refusal_unreported :
    ∃ h s, Http.make {} = .ok h ∧
      send scripted "SELECT 1" (.http h, answersOnce (nested 500 2000)) =
        .error (.fault .tooDeep) s := by
  obtain ⟨h, made, absent⟩ := Http.make_default
  obtain ⟨s, sent⟩ := send_nested absent "SELECT 1" 500
    (mt (nested_succeeds 500 2000).mp (by decide)) (by decide) (by decide) (by decide)
  exact ⟨h, s, made, sent⟩

end Transport
end PagedQuery
