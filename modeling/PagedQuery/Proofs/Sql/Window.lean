import Mathlib.Algebra.Ring.Nat
import PagedQuery.Proofs.Sql.Statement

/-! The window of a page statement: the limit and the offset, read back from its clauses. -/
namespace PagedQuery

theorem Number.intText_natCast (n : Nat) : intText n = String.ofList (Nat.toDigits 10 n) := by
  have nonneg : ¬ (n : Int) < 0 := by omega
  simp [intText, nonneg]

namespace Sql

def numberAfter? (word clause : String) : Option Nat :=
  if word.toList <+: clause.toList then
    some (Nat.ofDigitChars 10 (clause.toList.drop word.toList.length) 0)
  else none

/-- The rows that a limit clause and an offset clause let through: all without a limit, and from
the first on without an offset. -/
def window {α : Type} (limit offset : String) (rows : List α) : List α :=
  let rest := rows.drop ((numberAfter? "OFFSET " offset).getD 0)
  match numberAfter? "LIMIT " limit with
  | some count => rest.take count
  | none => rest

theorem numberAfter?_written (word : String) (n : Nat) :
    numberAfter? word (word ++ Number.intText n) = some n := by
  rw [numberAfter?, String.toList_append, if_pos (List.prefix_append _ _), List.drop_left,
    Number.intText_natCast, String.toList_ofList, Nat.ofDigitChars_ten_toDigits]

end Sql

namespace Query

open Sql

variable {q : Query}

theorem limitClause_unbounded (unbounded : q.pageSize = -1) : q.limitClause = .ok "" := by
  simp [limitClause, isUnbounded, unbounded]

theorem limitClause_of_bounded (bounded : q.isUnbounded = false) :
    q.limitClause = (Number.wholeText q.pageSize).map ("LIMIT " ++ ·) := by
  simp only [limitClause, bounded, Bool.false_eq_true, if_false]
  cases Number.wholeText q.pageSize <;> rfl

theorem limitClause_bounded {size : Nat} (sized : q.pageSize = size) :
    q.limitClause = (Number.wholeText size).map ("LIMIT " ++ ·) := by
  rw [limitClause_of_bounded (by simp [isUnbounded, sized]), sized]

theorem limitClause_present {limit : String} (written : q.limitClause = .ok limit)
    (present : limit ≠ "") : limit = "LIMIT " ++ Number.intText q.pageSize := by
  cases unbounded : q.isUnbounded with
  | true =>
    rw [limitClause, if_pos unbounded] at written
    cases written
    exact absurd rfl present
  | false =>
    rw [limitClause_of_bounded unbounded] at written
    obtain ⟨text, numbered, rfl⟩ := Except.map_ok_iff.mp written
    obtain ⟨-, rfl⟩ := Number.wholeText_ok_iff.mp numbered
    rfl

theorem limitClause_exists_iff :
    (∃ limit, q.limitClause = .ok limit) ↔ q.pageSize = -1 ∨ Number.Short q.pageSize := by
  by_cases unbounded : q.pageSize = -1
  · exact ⟨fun _ => .inl unbounded, fun _ => ⟨"", limitClause_unbounded unbounded⟩⟩
  · rw [limitClause_of_bounded (by simp [isUnbounded, unbounded]), Except.map_exists_iff,
      or_iff_right unbounded]
    simp only [Number.wholeText_ok_iff, exists_and_left, exists_eq, and_true]

/-- The first page and a page of all rows have no offset; every other page has one. -/
theorem offsetClause_whole {p : Int} (at_p : q.page = .whole p) :
    q.offsetClause =
      if q.isUnbounded ∨ p = 1 then .ok ""
      else (Number.wholeText (p * q.pageSize - q.pageSize)).map fun text =>
        "OFFSET " ++ text := by
  have first : Number.isInt (.whole p) 1 = decide (p = 1) := by
    by_cases one : p = 1 <;> simp [Number.isInt, Number.compareInt?, one]
  have before : q.offset = .ok (.whole (p * q.pageSize - q.pageSize)) := by
    rw [offset, at_p]
  simp only [offsetClause, at_p, first, before, Bool.or_eq_true, decide_eq_true_eq]
  rfl

theorem offsetClause_unbounded (unbounded : q.pageSize = -1) : q.offsetClause = .ok "" := by
  simp [offsetClause, isUnbounded, unbounded]

theorem offsetClause_first (first : q.page = .whole 1) : q.offsetClause = .ok "" := by
  rw [offsetClause_whole first, if_pos (.inr rfl)]

theorem offsetClause_later {size k : Nat} (sized : q.pageSize = size)
    (later : q.page = .whole (k + 1)) (notFirst : 0 < k) :
    q.offsetClause =
      (Number.wholeText (k * size : Nat)).map fun text => "OFFSET " ++ text := by
  have counted : ¬ (q.isUnbounded = true ∨ (k : Int) + 1 = 1) := by
    rw [isUnbounded, sized]
    rintro (h | h)
    · simp at h
    · omega
  have before : ((k : Int) + 1) * q.pageSize - q.pageSize = (k * size : Nat) := by
    rw [sized, Int.add_mul, Int.one_mul, Int.add_sub_cancel, Int.natCast_mul]
  rw [offsetClause_whole later, if_neg counted, before]

theorem offsetClause_ok {size k : Nat} (sized : q.pageSize = size)
    (at_k : q.page = .whole (k + 1)) (small : k * size < 10 ^ Text.maxDigits) :
    ∃ offset, q.offsetClause = .ok offset := by
  rcases Nat.eq_zero_or_pos k with rfl | notFirst
  · exact ⟨"", offsetClause_first at_k⟩
  · have short : Number.Short (k * size : Nat) := Number.short_iff_lt.mpr small
    rw [offsetClause_later sized at_k notFirst, Number.wholeText_short short]
    exact ⟨_, rfl⟩

/-- The clauses of a page let exactly the rows of that page through. -/
theorem window_bounded {α : Type} {size k : Nat} {limit offset : String} (sized : q.pageSize = size)
    (at_k : q.page = .whole (k + 1)) (limited : q.limitClause = .ok limit)
    (written : q.offsetClause = .ok offset) (rows : List α) :
    window limit offset rows = (rows.drop (k * size)).take size := by
  have skipped : (numberAfter? "OFFSET " offset).getD 0 = k * size := by
    rcases Nat.eq_zero_or_pos k with rfl | notFirst
    · rw [offsetClause_first at_k] at written
      cases written
      rw [Nat.zero_mul]
      rfl
    · rw [offsetClause_later sized at_k notFirst] at written
      obtain ⟨text, numbered, rfl⟩ := Except.map_ok_iff.mp written
      obtain ⟨-, rfl⟩ := Number.wholeText_ok_iff.mp numbered
      rw [numberAfter?_written]
      rfl
  rw [limitClause_bounded sized] at limited
  obtain ⟨text, numbered, rfl⟩ := Except.map_ok_iff.mp limited
  obtain ⟨-, rfl⟩ := Number.wholeText_ok_iff.mp numbered
  simp only [window, skipped, numberAfter?_written]

theorem window_unbounded {α : Type} {limit offset : String} (unbounded : q.pageSize = -1)
    (limited : q.limitClause = .ok limit) (written : q.offsetClause = .ok offset)
    (rows : List α) : window limit offset rows = rows := by
  cases (limitClause_unbounded unbounded).symm.trans limited
  cases (offsetClause_unbounded unbounded).symm.trans written
  exact List.drop_zero

end Query
end PagedQuery
