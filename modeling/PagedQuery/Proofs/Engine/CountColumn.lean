import PagedQuery.Proofs.Engine.Counting
import PagedQuery.Proofs.Text.WholeNumerals
import PagedQuery.Proofs.Value.Entries

/-! Where the total comes from: one column of the first row of the answer to a count statement, and
the whole number that its value is converted to. Nothing else in the answer matters. -/
namespace PagedQuery

namespace Totals

def SpellsCount (name : String) : Prop := Text.lower name = Text.lower countAlias

inductive CountIn (row : Fields) (v : Value) : Prop
  | named (found : Entries.find? countAlias row = some v)
  | variant {before after : Fields} {name : String} (split : row = before ++ (name, v) :: after)
    (unnamed : Entries.find? countAlias row = none) (spelled : SpellsCount name)
    (first : ∀ p ∈ before, ¬ SpellsCount p.1)
  | first {name : String} {after : Fields} (split : row = (name, v) :: after)
    (unspelled : ∀ p ∈ row, ¬ SpellsCount p.1)

inductive Converts : Value → Except Fault Int → Prop
  | int (n : Int) : Converts (.int n) (.ok n)
  | bool (b : Bool) : Converts (.bool b) (.ok (if b then 1 else 0))
  | real (negative : Bool) (m : Nat) (e : Int) :
    Converts (.real (.finite negative m e))
      (.ok (Binary64.signed negative ⌊(m : ℚ) * 2 ^ e⌋₊))
  | nan : Converts (.real .nan) (.error .wrongValue)
  | infinite (negative : Bool) : Converts (.real (.infinite negative)) (.error .overflow)
  | numeral {s : String} {n : Int} (h : Text.IsWholeNumeral s.toList n) :
    Converts (.string s) (.ok n)
  | text {s : String} (h : ∀ n, ¬ Text.IsWholeNumeral s.toList n) :
    Converts (.string s) (.error .wrongValue)
  | null : Converts .null (.error .wrongType)
  | list (items : List Value) : Converts (.list items) (.error .wrongType)
  | object (entries : Fields) : Converts (.object entries) (.error .wrongType)

section Columns

variable {row : Fields} {v : Value}

theorem unnamed_of_unspelled (unspelled : ∀ p ∈ row, ¬ SpellsCount p.1) :
    Entries.find? countAlias row = none := by
  rw [Entries.find?_eq_none_iff]
  intro member
  obtain ⟨p, inside, same⟩ := List.mem_map.mp member
  refine unspelled p inside ?_
  rw [same]
  rfl

theorem find?_unspelled (unspelled : ∀ p ∈ row, ¬ SpellsCount p.1) :
    row.find? (fun p => Text.lower p.1 == Text.lower countAlias) = none := by
  rw [List.find?_eq_none]
  intro p member same
  exact unspelled p member (beq_iff_eq.mp same)

theorem countIn_iff : CountIn row v ↔ countValue row = some v := by
  constructor
  · rintro (found | ⟨rfl, unnamed, spelled, first⟩ | ⟨rfl, unspelled⟩)
    · rw [countValue, found]
    · rename_i before after name
      have found : (before ++ (name, v) :: after).find?
          (fun p => Text.lower p.1 == Text.lower countAlias) = some (name, v) := by
        rw [List.find?_append, find?_unspelled first, Option.none_or]
        exact List.find?_cons_of_pos (beq_iff_eq.mpr spelled)
      rw [countValue, unnamed, found]
    · rw [countValue, unnamed_of_unspelled unspelled, find?_unspelled unspelled]
      rfl
  · intro read
    unfold countValue at read
    split at read
    · rename_i found
      cases read
      exact .named found
    · rename_i unnamed
      split at read
      · rename_i p found
        cases read
        obtain ⟨spelled, before, after, split, first⟩ := List.find?_eq_some_iff_append.mp found
        refine .variant split unnamed (beq_iff_eq.mp spelled) fun p member same => ?_
        have other := first p member
        rw [beq_iff_eq.mpr same] at other
        cases other
      · rename_i unspelled
        cases row with
        | nil => cases read
        | cons p after =>
          cases read
          refine .first rfl fun p member same => ?_
          exact List.find?_eq_none.mp unspelled p member (beq_iff_eq.mpr same)

theorem existsUnique_countIn (nonempty : row ≠ []) : ∃! v, CountIn row v := by
  obtain ⟨v, read⟩ : ∃ v, countValue row = some v := by
    unfold countValue
    cases row with
    | nil => exact absurd rfl nonempty
    | cons p after =>
      split
      · exact ⟨_, rfl⟩
      · split <;> exact ⟨_, rfl⟩
  refine ⟨v, countIn_iff.mpr read, fun w other => ?_⟩
  exact Option.some.inj ((countIn_iff.mp other).symm.trans read)

end Columns

section Conversion

theorem converts_iff (v : Value) (count : Except Fault Int) :
    Converts v count ↔ v.toWhole = count := by
  constructor
  · intro converts
    cases converts with
    | real negative m e => simp only [Value.toWhole, Binary64.truncate_finite]
    | numeral h => simp only [Value.toWhole, (Text.wholeNumeral?_iff _ _).mpr h]
    | @text s h =>
      have unread : Text.wholeNumeral? s.toList = none := by
        refine Option.eq_none_iff_forall_ne_some.mpr fun n read => ?_
        exact h n ((Text.wholeNumeral?_iff _ _).mp read)
      simp only [Value.toWhole, unread]
    | _ => rfl
  · rintro rfl
    cases v with
    | null => exact .null
    | bool b => exact .bool b
    | int n => exact .int n
    | real x =>
      cases x with
      | nan => exact .nan
      | infinite negative => exact .infinite negative
      | finite negative m e =>
        simp only [Value.toWhole, Binary64.truncate_finite]
        exact .real negative m e
    | string s =>
      cases read : Text.wholeNumeral? s.toList with
      | some n =>
        simp only [Value.toWhole, read]
        exact .numeral ((Text.wholeNumeral?_iff _ _).mp read)
      | none =>
        simp only [Value.toWhole, read]
        refine .text fun n numeral => ?_
        rw [(Text.wholeNumeral?_iff _ _).mpr numeral] at read
        cases read
    | list items => exact .list items
    | object entries => exact .object entries

theorem existsUnique_converts (v : Value) : ∃! count, Converts v count := by
  refine ⟨v.toWhole, (converts_iff v _).mpr rfl, fun count other => ?_⟩
  exact ((converts_iff v count).mp other).symm

end Conversion

theorem countOf_rows {row : Fields} {v : Value} {count : Except Fault Int} (column : CountIn row v)
    (converts : Converts v count) (rest : List Fields) :
    countOf (.list ((row :: rest).map .object)) = count := by
  have read : countOf (.list ((row :: rest).map .object)) = countOfRow (.object row) := rfl
  rw [read, countOfRow, countIn_iff.mp column]
  exact (converts_iff v count).mp converts

theorem ceil_zero (negative : Bool) : (Binary64.zero negative).ceil? = some 0 := by
  have unsigned : Binary64.signed negative 0 = 0 := by cases negative <;> rfl
  rw [Binary64.zero, Binary64.ceil?, Nat.zero_mul, unsigned, neg_zero, Int.zero_fdiv, neg_zero]

theorem pageCount_zero (size : Int) : pageCount 0 size = .ok 0 := by
  rw [pageCount, Binary64.quotient, Int.natAbs_zero, Binary64.ofRatio, if_pos rfl, ceil_zero]

end Totals

namespace Engine

open Totals

/-- What becomes of an engine that is told a count, and how it ends: a count is taken over, and with
it the number of pages where there is one, before both are logged. -/
def takeOver (e : Engine) : Except Fault Int → Except Failure Unit × Engine
  | .error f => (.error (.fault f), e)
  | .ok total =>
    match pageCount total e.query.pageSize with
    | .error f => (.error (.fault f), { e with total := some total })
    | .ok pages =>
      ((logLine e.query.qualifiedTable total pages).mapError Failure.fault |>.map fun _ => (),
        { e with total := some total, pages := some pages })

def recounted (e : Engine) (rows : List Fields) : Except Failure Unit × Engine :=
  e.takeOver (countOf (.list (rows.map .object)))

theorem calculateTotals_takeOver [Runtime] {σ : Type} (link : Link σ) {e : Engine} {s t : σ}
    (bounded : e.query.isUnbounded = false) {sql : String} (counting : e.query.countSql = .ok sql)
    {reply : Value} (answered : link.send sql s = .ok reply t) :
    calculateTotals link (e, s) =
      Act.settled (e.takeOver (countOf reply)).1 ((e.takeOver (countOf reply)).2, t) := by
  rw [calculateTotals_run_bounded link e s bounded]
  simp only [counting, answered]
  cases count : countOf reply with
  | error f => rfl
  | ok total =>
    simp only [takeOver]
    cases pageCount total e.query.pageSize with
    | error f => rfl
    | ok pages =>
      simp only []
      cases logLine e.query.qualifiedTable total pages <;> rfl

theorem takeOver_zero (e : Engine) :
    e.takeOver (.ok 0) = (.ok (), { e with total := some 0, pages := some 0 }) := by
  have short : Number.Short 0 := by decide
  obtain ⟨line, logged⟩ := logLine_short short short e.query.qualifiedTable
  simp only [takeOver, pageCount_zero, logged]
  rfl

/-- When rows are told in answer to a count statement, the first row decides, and in it one column.
No rows count zero, like a row without columns; every other row has exactly one value for the count,
and what an engine makes of it depends on the number alone that the value is converted to. -/
theorem total_read_from_count_column [Runtime] (e : Engine)
    (bounded : e.query.isUnbounded = false) :
    (∀ {σ : Type} (link : Link σ) (s t : σ) (sql : String) (rows : List Fields),
      e.query.countSql = .ok sql → link.send sql s = .ok (.list (rows.map .object)) t →
        calculateTotals link (e, s) = Act.settled (e.recounted rows).1 ((e.recounted rows).2, t)) ∧
    e.recounted [] = (.ok (), { e with total := some 0, pages := some 0 }) ∧
    (∀ rest, e.recounted ([] :: rest) =
      (.ok (), { e with total := some 0, pages := some 0 })) ∧
    (∀ row, row ≠ [] → ∃! v, CountIn row v) ∧
    (∀ v, ∃! count, Converts v count) ∧
    (∀ row rest v count, CountIn row v → Converts v count →
      e.recounted (row :: rest) = e.takeOver count) ∧
    (∀ row other rest others v w count, CountIn row v → CountIn other w → Converts v count →
      Converts w count → e.recounted (row :: rest) = e.recounted (other :: others)) ∧
    ∀ n : Int, (Nat.toDigits 10 n.natAbs).length ≤ Text.maxDigits →
      Converts (.int n) (.ok n) ∧ Converts (.string (Number.intText n)) (.ok n) := by
  have one : ∀ row rest v count, CountIn row v → Converts v count →
      e.recounted (row :: rest) = e.takeOver count := by
    intro row rest v count column converts
    rw [recounted, countOf_rows column converts]
  refine ⟨?_, e.takeOver_zero, fun rest => e.takeOver_zero, fun row => existsUnique_countIn,
    existsUnique_converts, one, ?_, ?_⟩
  · intro σ link s t sql rows counting answered
    exact calculateTotals_takeOver link bounded counting answered
  · intro row other rest others v w count column column' converts converts'
    rw [one row rest v count column converts, one other others w count column' converts']
  · intro n short
    exact ⟨.int n, .numeral (Text.intText_isWholeNumeral short)⟩

def shouting : Link Unit where
  send _ := pure (.list ([[("id", .int 7), ("NUMITEMS", .string " 25 ")],
    [("numItems", .int 9)]].map .object))
  close := pure ()

open Runtime.Usual in
theorem shouted_count_read :
    ∃ q e s, Query.normalize fifthPage = .ok q ∧
      create scripted Registry.builtin false default (some Dialect.default) q
        (some (.custom "Recording" "recording"), twelveInAll) = .ok e s ∧
      calculateTotals shouting (e, ()) =
        .ok () ({ e with total := some 25, pages := some 3 }, ()) := by
  obtain ⟨q, e, s, accepted, created, sized, counting, _⟩ := twelveInAll_engine
  obtain ⟨run, _, _, _, _, one, _⟩ :=
    total_read_from_count_column e (Query.bounded_of_size sized)
  have column : CountIn [("id", .int 7), ("NUMITEMS", .string " 25 ")] (.string " 25 ") :=
    countIn_iff.mpr rfl
  have converts : Converts (.string " 25 ") (.ok 25) := (converts_iff _ _).mpr rfl
  have pages : pageCount 25 (10 : Nat) = .ok 3 := rfl
  obtain ⟨line, logged⟩ := logLine_short (by decide : Number.Short 25) (by decide : Number.Short 3)
    e.query.qualifiedTable
  have taken : e.takeOver (.ok 25) = (.ok (), { e with total := some 25, pages := some 3 }) := by
    simp only [takeOver, sized, pages, logged]
    rfl
  refine ⟨q, e, s, accepted, created, ?_⟩
  rw [run shouting () () _ _ counting rfl, one _ _ _ _ column converts, taken]
  rfl

end Engine
end PagedQuery
