import PagedQuery.Proofs.Engine.PageRange
import PagedQuery.Proofs.Number.Nearest

/-! Counting. The number of pages is a rounded quotient, rounded up. It is the least number that
holds all rows as long as rounding keeps to the same side of every whole number. After the count has
been taken over two things can still fail: a quotient beyond the finite numbers, and the log entry
for a count with too many digits. -/
namespace PagedQuery

namespace Totals

open Binary64

variable {total size : Nat} (positive : 0 < size)
include positive

/-- The number of pages is the rounded quotient, rounded up; there is none for quotients beyond
the finite numbers. -/
theorem pageCount_rounded (total : Nat) :
    pageCount total size =
      if rounded total size < 2 ^ 1024 then .ok ⌈rounded total size⌉₊ else .error .overflow := by
  obtain ⟨m, e, value, quotient⟩ := ofRatio_rounded false total positive
  have least := (rounded_nearest total positive).nonneg
  unfold pageCount
  rw [quotient_natCast, quotient]
  by_cases fits : rounded total size < 2 ^ 1024
  · simp only [if_pos fits, ceil_finite, value, Int.natCast_ceil_eq_ceil least]
  · simp only [if_neg fits, ceil?]

theorem pageCount_overflow_iff (total : Int) (f : Fault) :
    pageCount total size = .error f ↔ f = .overflow ∧ overflowBound * (size : Int) ≤ |total| := by
  obtain ⟨m, e, _, quotient⟩ := ofRatio_rounded (total < 0) total.natAbs positive
  have sizePos : (0 : ℚ) < size := by exact_mod_cast positive
  have sign : ((total < 0 : Bool) != ((size : Int) < 0 : Bool)) = (total < 0 : Bool) := by
    rw [decide_eq_false (not_lt.mpr (Int.natCast_nonneg size)), Bool.bne_false]
  have bound : ¬ rounded total.natAbs size < 2 ^ 1024 ↔ overflowBound * (size : Int) ≤ |total| := by
    rw [not_lt, (rounded_nearest total.natAbs positive).overflows_iff, le_div_iff₀ sizePos,
      Int.abs_eq_natAbs]
    exact_mod_cast Iff.rfl
  unfold pageCount
  rw [Binary64.quotient, sign, Int.natAbs_natCast, quotient, ← bound]
  by_cases fits : rounded total.natAbs size < 2 ^ 1024
  · simp [fits, ceil?]
  · simp [fits, ceil?, eq_comm]

theorem pageCount_short {total pages : Int} (counted : pageCount total size = .ok pages) :
    Number.Short pages := by
  obtain ⟨m, e, value, quotient⟩ :=
    ofRatio_rounded ((total < 0) != ((size : Int) < 0)) total.natAbs positive
  unfold pageCount at counted
  rw [Binary64.quotient, Int.natAbs_natCast, quotient] at counted
  by_cases fits : rounded total.natAbs size < 2 ^ 1024
  · rw [if_pos fits] at counted
    split at counted
    · rename_i n ceiling
      cases counted
      have close := natAbs_ceil_lt ceiling
      rw [value] at close
      have below : (pages.natAbs : ℚ) < (2 ^ 1024 + 1 : Nat) := by
        rw [Nat.cast_add, Nat.cast_pow, Nat.cast_ofNat, Nat.cast_one]
        exact close.trans (add_lt_add_left fits 1)
      have digits : 2 ^ 1024 + 1 ≤ 10 ^ Text.maxDigits := by decide +kernel
      exact Number.short_iff_lt.mpr ((Nat.cast_lt.mp below).trans_le digits)
    · cases counted
  · rw [if_neg fits] at counted
    cases counted

omit positive in
theorem logLine_short {total pages : Int} (short : Number.Short total) (few : Number.Short pages)
    (table : String) : ∃ line, logLine table total pages = .ok line := by
  rw [logLine, Number.wholeText_short short, Number.wholeText_short few]
  exact ⟨_, rfl⟩

omit positive in
theorem logLine_long {total : Int} (long : ¬ Number.Short total) (table : String) (pages : Int) :
    logLine table total pages = .error .wrongValue := by
  rw [logLine, Number.wholeText_long long]
  rfl

section Nearest

variable {total : Nat} {q : ℚ} (near : Nearest (total / size) q)
include near

theorem vanishes_iff : q = 0 ↔ 2 ^ 1075 * total ≤ size := by
  have sizePos : (0 : ℚ) < size := by exact_mod_cast positive
  rw [near.vanishes_iff, ← mul_div_assoc, div_le_one sizePos]
  exact_mod_cast Iff.rfl

theorem ceil_of_fits (fits : total ≤ size) : ⌈q⌉₊ = if 2 ^ 1075 * total ≤ size then 0 else 1 := by
  have inside : (total / size : ℚ) ≤ 1 := by
    rw [div_le_one (by exact_mod_cast positive)]
    exact_mod_cast fits
  have one : OnGrid 1 := ⟨1, 0, by decide, by decide, by simp⟩
  have within : q ≤ 1 := by
    by_contra above
    have middle := near.middle_le one (not_le.mp above)
    linarith
  split
  · rename_i few
    rw [(vanishes_iff positive near).mpr few, Nat.ceil_zero]
  · rename_i many
    have reached : 0 < q :=
      near.nonneg.lt_of_ne' (mt (vanishes_iff positive near).mp many)
    exact (Nat.ceil_eq_iff one_ne_zero).mpr ⟨by simpa using reached, by simpa⟩

theorem isLeast_of_fine (small : total ≤ 2 ^ 53) (fine : size ≤ 2 ^ 53) :
    IsLeast {k : Nat | total ≤ k * size} ⌈q⌉₊ := by
  obtain ⟨pages, exact, enough, least⟩ := pageCount_exact positive small fine
  have counted := pageCount_rounded positive total
  rw [(rounded_nearest total positive).unique near, exact] at counted
  split at counted
  · have same : pages = ⌈q⌉₊ := by exact_mod_cast Except.ok.inj counted
    exact same ▸ ⟨enough, fun k h => least k h⟩
  · cases counted

/-- Counts of up to 53 bits are paged exactly, unless the rows are so few for the size of a page
that they round to no page at all. -/
theorem isLeast_rounded_iff (small : total ≤ 2 ^ 53) :
    IsLeast {k : Nat | total ≤ k * size} ⌈q⌉₊ ↔ total = 0 ∨ size < 2 ^ 1075 * total := by
  rcases Nat.lt_or_ge (2 ^ 53) size with large | fine
  · rw [ceil_of_fits positive near (small.trans large.le)]
    split
    · rename_i few
      constructor
      · intro least
        have none : total ≤ 0 * size := least.1
        exact .inl (by omega)
      · rintro (rfl | many)
        · exact ⟨Nat.zero_le _, fun k _ => k.zero_le⟩
        · omega
    · rename_i many
      refine iff_of_true ⟨show total ≤ 1 * size by omega, fun k enough => ?_⟩ (.inr (by omega))
      by_contra none
      have none : total ≤ 0 * size := by rwa [show k = 0 by omega] at enough
      omega
  · refine iff_of_true (isLeast_of_fine positive near small fine) ?_
    rcases Nat.eq_zero_or_pos total with none | some
    · exact .inl none
    · have power (k : Nat) (more : 53 < k) : 2 ^ 53 < 2 ^ k * total :=
        (Nat.pow_lt_pow_right one_lt_two more).trans_le (Nat.le_mul_of_pos_right _ some)
      exact .inr (fine.trans_lt (power 1075 (by decide)))

end Nearest

end Totals

namespace Query

variable {q : Query}

theorem bounded_of_size {size : Nat} (sized : q.pageSize = size) : q.isUnbounded = false := by
  rw [isUnbounded, sized, beq_eq_false_iff_ne]
  omega

theorem size_of_bounded (sized : q.pageSize = -1 ∨ 1 ≤ q.pageSize)
    (bounded : q.isUnbounded = false) : ∃ size : Nat, 0 < size ∧ q.pageSize = size := by
  rw [isUnbounded, beq_eq_false_iff_ne] at bounded
  obtain ⟨size, same⟩ := Int.eq_ofNat_of_zero_le (by omega : 0 ≤ q.pageSize)
  exact ⟨size, by omega, same⟩

end Query

namespace Engine

open Binary64

section Pages

variable [Runtime] {σ : Type} (link : Link σ) (e : Engine) (s : σ)

theorem calculateTotals_counted {size : Nat} (positive : 0 < size) (sized : e.query.pageSize = size)
    {sql : String} (counting : e.query.countSql = .ok sql) {reply : Value} {t : σ}
    (answered : link.send sql s = .ok reply t) {total : Int}
    (count : Totals.countOf reply = .ok total) :
    calculateTotals link (e, s) = match Totals.pageCount total e.query.pageSize with
      | .error f => .error (.fault f) ({ e with total := some total }, t)
      | .ok pages => if Number.Short total
        then .ok () ({ e with total := some total, pages := some pages }, t)
        else .error (.fault .wrongValue) ({ e with total := some total, pages := some pages }, t) :=
    by
  rw [calculateTotals_run_bounded link e s (Query.bounded_of_size sized)]
  simp only [counting, answered, count]
  cases counted : Totals.pageCount total e.query.pageSize with
  | error f => rfl
  | ok pages =>
    simp only []
    by_cases short : Number.Short total
    · have few := Totals.pageCount_short positive (sized ▸ counted)
      obtain ⟨line, logged⟩ := Totals.logLine_short short few e.query.qualifiedTable
      rw [logged, if_pos short]
    · rw [Totals.logLine_long short, if_neg short]

/-- The number of pages is the nearest number to the quotient of count and page size, rounded up.
Counts that are too large for a quotient fail, and so do counts with too many digits to be logged,
but then both totals are there. For counts of up to 53 bits the number is the least number of pages
that hold all rows, unless the quotient is rounded to zero; beyond that it may be another one. -/
theorem pages_of_nearest_quotient (size total : Nat) (positive : 0 < size)
    (sized : e.query.pageSize = size) (sql : String) (counting : e.query.countSql = .ok sql)
    (reply : Value) (t : σ) (answered : link.send sql s = .ok reply t)
    (count : Totals.countOf reply = .ok total) :
    ∃ q : ℚ, Nearest (total / size) q ∧
      (calculateTotals link (e, s) =
        if total < overflowBound * size then
          if Number.Short total then
            .ok () ({ e with total := some total, pages := some ⌈q⌉₊ }, t)
          else .error (.fault .wrongValue) ({ e with total := some total, pages := some ⌈q⌉₊ }, t)
        else .error (.fault .overflow) ({ e with total := some total }, t)) ∧
      (⌈q⌉₊ = 0 ↔ 2 ^ 1075 * total ≤ size) ∧
      (total ≤ 2 ^ 53 →
        (IsLeast {k : Nat | total ≤ k * size} ⌈q⌉₊ ↔ total = 0 ∨ size < 2 ^ 1075 * total)) := by
  have near := rounded_nearest total positive
  have sizePos : (0 : ℚ) < size := by exact_mod_cast positive
  have fits : rounded total size < 2 ^ 1024 ↔ total < overflowBound * size := by
    rw [← not_le, near.overflows_iff, le_div_iff₀ sizePos, ← not_le]
    exact_mod_cast Iff.rfl
  refine ⟨rounded total size, near, ?_, ?_, Totals.isLeast_rounded_iff positive near⟩
  · rw [calculateTotals_counted link e s positive sized counting answered count, sized,
      Totals.pageCount_rounded positive]
    simp only [fits]
    by_cases within : total < overflowBound * size
    · simp only [if_pos within]
    · simp only [if_neg within]
  · rw [Nat.ceil_eq_zero, ← Totals.vanishes_iff positive near]
    exact ⟨fun h => le_antisymm h near.nonneg, fun h => h.le⟩

end Pages

def telling (n : Int) : Link Unit where
  send _ := pure (.list [.object [("numItems", .int n)]])
  close := pure ()

open Runtime.Usual in
theorem twelveInAll_engine :
    ∃ q e s, Query.normalize fifthPage = .ok q ∧
      create scripted Registry.builtin false default (some Dialect.default) q
        (some (.custom "Recording" "recording"), twelveInAll) = .ok e s ∧
      e.query.pageSize = (10 : Nat) ∧
      e.query.countSql = .ok "SELECT COUNT(*) AS numItems FROM server_tracks LIMIT 10" ∧
      e.total = some 12 ∧ e.pages = some 2 :=
  ⟨_, _, _, rfl, rfl, rfl, rfl, rfl, rfl⟩

open Runtime.Usual in
theorem recounted_tracks_on_three_pages :
    ∃ q e s, Query.normalize fifthPage = .ok q ∧
      create scripted Registry.builtin false default (some Dialect.default) q
        (some (.custom "Recording" "recording"), twelveInAll) = .ok e s ∧
      calculateTotals (telling 25) (e, ()) =
        .ok () ({ e with total := some 25, pages := some 3 }, ()) := by
  obtain ⟨q, e, s, accepted, created, sized, counting, _⟩ := twelveInAll_engine
  obtain ⟨v, _, run, _, exact⟩ :=
    pages_of_nearest_quotient (telling 25) e () 10 25 (by decide) sized _ counting _ () rfl rfl
  have fits : 25 < overflowBound * 10 := by decide +kernel
  have many : 10 < 2 ^ 1075 * 25 := by decide +kernel
  have three : IsLeast {k : Nat | 25 ≤ k * 10} 3 :=
    ⟨by decide, fun k (enough : 25 ≤ k * 10) => by omega⟩
  have short : Number.Short (25 : Nat) := by decide
  rw [if_pos fits, if_pos short, ((exact (by decide)).mpr (.inr many)).unique three] at run
  exact ⟨q, e, s, accepted, created, run⟩

open Runtime.Usual in
theorem last_row_on_no_page :
    ∃ q e s, Query.normalize fifthPage = .ok q ∧
      create scripted Registry.builtin false default (some Dialect.default) q
        (some (.custom "Recording" "recording"), twelveInAll) = .ok e s ∧
      calculateTotals (telling 45035996273704961) (e, ()) =
        .ok () ({ e with total := some 45035996273704961, pages := some 4503599627370496 }, ()) ∧
      ¬ IsLeast {k : Nat | 45035996273704961 ≤ k * 10} 4503599627370496 :=
  ⟨_, _, _, rfl, rfl, rfl, fun least =>
    (by decide : ¬ 45035996273704961 ≤ 4503599627370496 * 10) least.1⟩

section Failures

variable [Runtime] {σ : Type} (link : Link σ) (e : Engine) (s : σ)

inductive Overtaken (e : Engine) (total : Int) : Failure → Engine → Prop
  | undivided (large : overflowBound * e.query.pageSize ≤ |total|) :
    Overtaken e total (.fault .overflow) { e with total := some total }
  | unlogged {pages : Int} (counted : Totals.pageCount total e.query.pageSize = .ok pages)
    (long : ¬ Number.Short total) :
    Overtaken e total (.fault .wrongValue)
      { e with total := some total, pages := some pages }

theorem calculateTotals_overtaken {size : Nat} (positive : 0 < size)
    (sized : e.query.pageSize = size) {sql : String} (counting : e.query.countSql = .ok sql)
    {reply : Value} {t : σ} (answered : link.send sql s = .ok reply t) {total : Int}
    (count : Totals.countOf reply = .ok total) {f : Failure} {e' : Engine} {t' : σ} :
    calculateTotals link (e, s) = .error f (e', t') ↔ t' = t ∧ Overtaken e total f e' := by
  rw [calculateTotals_counted link e s positive sized counting answered count]
  constructor
  · intro failed
    split at failed
    · rename_i g uncounted
      cases failed
      obtain ⟨rfl, large⟩ :=
        (Totals.pageCount_overflow_iff positive total g).mp (sized ▸ uncounted)
      rw [← sized] at large
      exact ⟨rfl, .undivided large⟩
    · rename_i pages counted
      split at failed
      · cases failed
      · cases failed
        exact ⟨rfl, .unlogged counted ‹_›⟩
  · rintro ⟨rfl, overtaken⟩
    cases overtaken with
    | undivided large =>
      rw [sized] at large
      rw [sized, (Totals.pageCount_overflow_iff positive total .overflow).mpr ⟨rfl, large⟩]
    | unlogged counted long =>
      rw [counted]
      exact if_neg long

theorem calculateTotals_failed {size : Nat} (positive : 0 < size)
    (sized : e.query.pageSize = size) {f : Failure} {e' : Engine} {t : σ}
    (failed : calculateTotals link (e, s) = .error f (e', t)) :
    e' = e ∨ ∃ sql reply total, e.query.countSql = .ok sql ∧ link.send sql s = .ok reply t ∧
      Totals.countOf reply = .ok total ∧ Overtaken e total f e' := by
  have run := calculateTotals_run_bounded link e s (Query.bounded_of_size sized)
  cases counting : e.query.countSql with
  | error g =>
    rw [counting] at run
    cases run.symm.trans failed
    exact .inl rfl
  | ok sql =>
    cases answered : link.send sql s with
    | error g t' =>
      simp only [counting, answered] at run
      cases run.symm.trans failed
      exact .inl rfl
    | ok reply t' =>
      cases count : Totals.countOf reply with
      | error g =>
        simp only [counting, answered, count] at run
        cases run.symm.trans failed
        exact .inl rfl
      | ok total =>
        obtain ⟨rfl, overtaken⟩ :=
          (calculateTotals_overtaken link e s positive sized counting answered count).mp failed
        exact .inr ⟨sql, reply, total, rfl, answered, count, overtaken⟩

/-- When counting fails the engine is as it was before, with two exceptions: a count that was read,
but is too large to be divided by the page size, is taken over, and so are both totals when the
count is too long to be logged. In these cases counting fails indeed. -/
theorem failed_count_kept (sized : e.query.pageSize = -1 ∨ 1 ≤ e.query.pageSize) :
    (∀ f e' t, calculateTotals link (e, s) = .error f (e', t) →
      e' = e ∨ ∃ sql reply total, e.query.countSql = .ok sql ∧ link.send sql s = .ok reply t ∧
        Totals.countOf reply = .ok total ∧ Overtaken e total f e') ∧
    ∀ sql reply total t f e', e.query.isUnbounded = false → e.query.countSql = .ok sql →
      link.send sql s = .ok reply t → Totals.countOf reply = .ok total → Overtaken e total f e' →
      calculateTotals link (e, s) = .error f (e', t) := by
  cases unbounded : e.query.isUnbounded with
  | true =>
    rw [calculateTotals_run_unbounded link e s unbounded]
    constructor
    · intro f e' t failed
      cases failed
    · intro sql reply total t f e' bounded
      cases bounded
  | false =>
    obtain ⟨size, positive, same⟩ := Query.size_of_bounded sized unbounded
    constructor
    · intro f e' t failed
      exact calculateTotals_failed link e s positive same failed
    · intro sql reply total t f e' _ counting answered count overtaken
      exact (calculateTotals_overtaken link e s positive same counting answered count).mpr
        ⟨rfl, overtaken⟩

end Failures

open Runtime.Usual in
theorem huge_count_taken_over :
    ∃ q e s, Query.normalize fifthPage = .ok q ∧
      create scripted Registry.builtin false default (some Dialect.default) q
        (some (.custom "Recording" "recording"), twelveInAll) = .ok e s ∧
      calculateTotals (telling (10 ^ 310)) (e, ()) =
        .error (.fault .overflow) ({ e with total := some (10 ^ 310) }, ()) ∧
      e.total = some 12 ∧ e.pages = some 2 := by
  obtain ⟨q, e, s, accepted, created, sized, counting, known⟩ := twelveInAll_engine
  have large : overflowBound * e.query.pageSize ≤ |(10 : Int) ^ 310| := by
    rw [sized]
    decide +kernel
  have kept := failed_count_kept (telling (10 ^ 310)) e () (.inr (by rw [sized]; decide))
  have failed := kept.2 _ _ _ () _ _ (Query.bounded_of_size sized) counting rfl rfl
    (.undivided large)
  exact ⟨q, e, s, accepted, created, failed, known⟩

end Engine
end PagedQuery
