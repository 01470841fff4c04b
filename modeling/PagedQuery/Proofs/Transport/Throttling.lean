import PagedQuery.Proofs.Text.Digits
import PagedQuery.Proofs.Transport.Decoding

/-! Demands to wait, over HTTP. A server says how long in a header of digits. Whether the header
is one is told by what its characters look like, and what it says by the places of its digits: a
header that passes the first and fails the second is where a demand to wait is lost. -/
namespace PagedQuery

namespace Response

variable {r : Response}

inductive Waits (r : Response) : Except Failure Value → Prop
  | unset (unset : r.header? "Retry-After" = none) : Waits r (.ok .null)
  | words {s : String} (given : r.header? "Retry-After" = some s)
    (words : ¬ Text.AllDigits s.toList) : Waits r (.ok .null)
  | number {s : String} {n : Nat} (given : r.header? "Retry-After" = some s)
    (writes : Text.Writes s.toList n) (short : s.toList.length ≤ Text.maxDigits) :
    Waits r (.ok (.int n))
  | unreadable {s : String} (given : r.header? "Retry-After" = some s)
    (digits : Text.AllDigits s.toList)
    (long : ∀ n, Text.Writes s.toList n → Text.maxDigits < s.toList.length) :
    Waits r (.error (.fault .wrongValue))

theorem retryAfter_words {s : String} (given : r.header? "Retry-After" = some s)
    (words : ¬ Text.AllDigits s.toList) : Http.retryAfter r = .ok .null := by
  have passed : (s.toList.isEmpty || !s.toList.all Text.isDigit) = true :=
    Bool.eq_true_of_not_eq_false (mt (Text.allDigits_iff _).mpr words)
  simp only [Http.retryAfter, given, passed, if_true]

theorem retryAfter_digits {s : String} (given : r.header? "Retry-After" = some s)
    (digits : Text.AllDigits s.toList) :
    Http.retryAfter r = match Text.wholeNumeral? s.toList with
      | some n => .ok (.int n)
      | none => .error (.fault .wrongValue) := by
  have passed := Bool.not_eq_true _ ▸ (Text.allDigits_iff _).mp digits
  rw [Http.retryAfter, given]
  exact if_neg passed

theorem retryAfter_waits (r : Response) : r.Waits (Http.retryAfter r) := by
  cases given : r.header? "Retry-After" with
  | none =>
    rw [Http.retryAfter, given]
    exact .unset given
  | some s =>
    by_cases digits : Text.AllDigits s.toList
    · have reads := fun n => Text.wholeNumeral?_eq_some_iff digits n
      rw [retryAfter_digits given digits]
      cases read : Text.wholeNumeral? s.toList with
      | some n =>
        obtain ⟨m, rfl, writes, short⟩ := (reads n).mp read
        exact .number given writes short
      | none =>
        refine .unreadable given digits fun n writes => Nat.lt_of_not_le fun short => ?_
        cases read.symm.trans ((reads n).mpr ⟨n, rfl, writes, short⟩)
    · rw [retryAfter_words given digits]
      exact .words given digits

theorem Waits.eq {x : Except Failure Value} (waits : r.Waits x) : Http.retryAfter r = x := by
  cases waits with
  | unset unset => rw [Http.retryAfter, unset]
  | words given words => exact retryAfter_words given words
  | @number s n given writes short =>
    have read := (Text.wholeNumeral?_eq_some_iff writes.allDigits n).mpr ⟨n, rfl, writes, short⟩
    rw [retryAfter_digits given writes.allDigits, read]
  | @unreadable s given digits long =>
    rw [retryAfter_digits given digits]
    cases read : Text.wholeNumeral? s.toList with
    | none => rfl
    | some n =>
      obtain ⟨m, rfl, writes, short⟩ := (Text.wholeNumeral?_eq_some_iff digits n).mp read
      exact absurd short (Nat.not_le_of_lt (long m writes))

end Response

namespace Http

def throttled (message wait : Value) : Report where
  kind := .rateLimit
  message := message
  transport := .string "http"
  status := .int 429
  retryAfter := wait

variable [Runtime]

inductive Throttles (r : Response) : Except Failure Value → Prop
  | reported {message wait : Value} (said : r.Message (.ok message)) (waits : r.Waits (.ok wait)) :
    Throttles r (.error (.reported (throttled message wait)))
  | unreadable {message : Value} {f : Failure} (said : r.Message (.ok message))
    (unreadable : r.Waits (.error f)) : Throttles r (.error f)
  | untold {f : Failure} (untold : r.Message (.error f)) : Throttles r (.error f)

theorem rows_throttled (h : Http) {r : Response} (throttled : r.status = 429) :
    h.rows r = told r >>= fun message => retryAfter r >>= fun wait =>
      .error (.reported (Http.throttled message wait)) := by
  have failure : ¬ r.Succeeds := fun ⟨_, low⟩ => by omega
  rw [rows_failure failure, refusal, told]
  cases refusalMessage r with
  | error f => rfl
  | ok message =>
    simp only [bind, Except.bind, throttled, Report.tooManyRequests]
    cases discard ((logLine r message).mapError Failure.fault) with
    | error f => rfl
    | ok _ =>
      simp only []
      cases retryAfter r <;> rfl

theorem rows_iff_throttles (h : Http) {r : Response} (throttled : r.status = 429)
    (x : Except Failure Value) : h.rows r = x ↔ Throttles r x := by
  rw [rows_throttled h throttled]
  constructor
  · rintro rfl
    have said := Response.told_message r
    have waits := Response.retryAfter_waits r
    cases told : told r with
    | error f =>
      rw [told] at said
      exact .untold said
    | ok message =>
      rw [told] at said
      cases asked : retryAfter r with
      | error f =>
        rw [asked] at waits
        exact .unreadable said waits
      | ok wait =>
        rw [asked] at waits
        exact .reported said waits
  · intro throttles
    cases throttles with
    | reported said waits =>
      rw [said.eq, waits.eq]
      rfl
    | unreadable said unreadable =>
      rw [said.eq, unreadable.eq]
      rfl
    | untold untold =>
      rw [untold.eq]
      rfl

end Http

namespace Transport

/-- A demand to wait is reported as one whenever the body and the header can be read: with what
the server says, and with the number that the header writes if it is digits throughout. Otherwise
the failure of the reading goes through. -/
theorem demands_to_wait_reported [Runtime] {W : Type} {o : Outside W} {h : Http} {sql : String}
    {x : Exchange W} {r : Response} (answered : Http.Answered o h sql x.world r)
    (throttled : r.status = 429) :
    ∃ result s, send o sql (.http h, x) = Act.settled result s ∧
      (∀ f, r.decompressed = .error f → result = .error (h.requestFailure f)) ∧
      ∀ d, r.decompressed = .ok d → ∀ y, result = y ↔ Http.Throttles d y := by
  obtain ⟨s, sent⟩ := send_answered answered
  refine ⟨_, s, sent, fun f => h.received_damaged, fun d whole => ?_⟩
  rw [h.received_whole whole]
  exact h.rows_iff_throttles ((Response.status_decompressed whole).trans throttled)

def slowDown (wait : String) : Response :=
  ⟨429, [("Retry-After", wait)], "slow down".toList.map fun c => UInt8.ofNat c.toNat⟩

open Runtime.Usual in
theorem half_a_minute_reported :
    ∃ h report s, Http.make {} = .ok h ∧
      send scripted "SELECT 1" (.http h, answersOnce (slowDown "٣٠")) =
        .error (.reported report) s ∧
      report.kind = .rateLimit ∧ report.retryAfter = .int 30 ∧
      report.text? = some "[429] slow down" := by
  obtain ⟨h, made, absent⟩ := Http.make_default
  obtain ⟨result, s, sent, _, whole⟩ :=
    demands_to_wait_reported (answered_once absent "SELECT 1" (slowDown "٣٠")) rfl
  obtain ⟨message, said, text⟩ : ∃ message, (slowDown "٣٠").Message (.ok message) ∧
      message.text = .ok "slow down" := Response.message_of_text (by decide +kernel)
  have writes : Text.Writes "٣٠".toList 30 :=
    ⟨by decide, [3, 0], .cons (by decide +kernel) (.cons (by decide +kernel) .nil), by decide⟩
  have waits : (slowDown "٣٠").Waits (.ok (.int 30)) :=
    .number (by decide +kernel) writes (by decide)
  have reported := (whole (slowDown "٣٠") rfl _).mpr (.reported said waits)
  rw [reported] at sent
  refine ⟨h, _, s, made, sent, rfl, rfl, ?_⟩
  have shown : (Http.throttled message (.int 30)).message.text = .ok "slow down" := text
  exact Report.text?_status (n := 429) rfl rfl (by decide) shown

open Runtime.Usual in
/-- A demand to wait is lost when a digit in its header has no place in numerals. -/
theorem superscript_wait_unreported :
    ∃ h s, Http.make {} = .ok h ∧
      send scripted "SELECT 1" (.http h, answersOnce (slowDown "²")) =
        .error (.fault .wrongValue) s := by
  obtain ⟨h, made, absent⟩ := Http.make_default
  have whole : (slowDown "²").decompressed = .ok (slowDown "²") := rfl
  obtain ⟨s, sent⟩ := send_whole (answered_once absent "SELECT 1" (slowDown "²")) whole
  obtain ⟨message, said, -⟩ : ∃ message, (slowDown "²").Message (.ok message) ∧
      message.text = .ok "slow down" := Response.message_of_text (by decide +kernel)
  have digits : Text.AllDigits "²".toList := (Text.allDigits_iff _).mpr (by decide +kernel)
  have noNumeral : Text.wholeNumeral? "²".toList = none := by decide +kernel
  have lost : Http.retryAfter (slowDown "²") = .error (.fault .wrongValue) := by
    rw [Response.retryAfter_digits (by decide +kernel) digits, noNumeral]
  rw [h.rows_throttled rfl, said.eq] at sent
  refine ⟨h, s, made, sent.trans ?_⟩
  simp only [bind, Except.bind, lost]
  rfl

end Transport
end PagedQuery
