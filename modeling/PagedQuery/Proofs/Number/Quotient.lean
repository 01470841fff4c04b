import Mathlib.Algebra.Order.Floor.Semifield
import Mathlib.Data.Nat.Cast.Order.Field
import Mathlib.Data.Rat.Floor
import Mathlib.Tactic.Linarith
import Mathlib.Tactic.Ring
import PagedQuery.Engine.Totals

/-! Rounded quotients of whole numbers. A finite number is read as the rational that it stands
for; a quotient lies within half a unit of the last place of the exact one, and for totals of up
to 53 bits rounding neither reaches nor crosses a whole number. -/
namespace PagedQuery

theorem scale_two (e : Int) : (scale 2 e : ℚ) = 2 ^ e * scale 2 (-e) := by
  rcases e.eq_nat_or_neg with ⟨k, rfl | rfl⟩ <;> simp [scale]

theorem scale_two_pos (e : Int) : (0 : ℚ) < scale 2 e := by
  simp [scale]

/-- Rounding moves a fraction by half at most. -/
theorem roundHalfEven_near (n : Nat) {d : Nat} (positive : 0 < d) :
    2 * n ≤ (2 * roundHalfEven n d + 1) * d ∧ 2 * roundHalfEven n d * d ≤ 2 * n + d := by
  have whole := Nat.div_add_mod n d
  have part := Nat.mod_lt n positive
  have left : (2 * (n / d) + 1) * d = 2 * (d * (n / d)) + d := by ring
  have right : 2 * (n / d + 1) * d = 2 * (d * (n / d)) + 2 * d := by ring
  have above : (2 * (n / d + 1) + 1) * d = 2 * (d * (n / d)) + 3 * d := by ring
  have same : 2 * (n / d) * d = 2 * (d * (n / d)) := by ring
  unfold roundHalfEven
  dsimp only
  split
  · omega
  · split
    · omega
    · rcases Nat.mod_two_eq_zero_or_one (n / d) with parity | parity <;>
      · simp only [parity, Nat.add_zero]
        omega

theorem roundHalfEven_le {n d c : Nat} (positive : 0 < d) (bound : n ≤ c * d) :
    roundHalfEven n d ≤ c := by
  by_contra above
  have near := (roundHalfEven_near n positive).2
  have more : 2 * (c + 1) * d ≤ 2 * roundHalfEven n d * d :=
    Nat.mul_le_mul_right d (by omega)
  have same : 2 * (c + 1) * d = 2 * (c * d) + 2 * d := by ring
  omega

theorem scale_le_iff {n d : Nat} (positive : 0 < d) (k : Int) :
    d * scale 2 k ≤ n * scale 2 (-k) ↔ (2 : ℚ) ^ k ≤ n / d := by
  have dpos : (0 : ℚ) < d := by exact_mod_cast positive
  rw [le_div_iff₀ dpos, ← mul_le_mul_iff_left₀ (scale_two_pos (-k)),
    show (2 : ℚ) ^ k * d * scale 2 (-k) = d * scale 2 k by rw [scale_two k]; ring]
  exact_mod_cast Iff.rfl

theorem ratioLog_bounds {n d : Nat} (hn : 0 < n) (hd : 0 < d) :
    (2 : ℚ) ^ ratioLog n d ≤ n / d ∧ (n / d : ℚ) < 2 ^ (ratioLog n d + 1) := by
  have dpos : (0 : ℚ) < d := by exact_mod_cast hd
  have nLow : (2 : ℚ) ^ (n.log2 : Int) ≤ n := by
    exact_mod_cast Nat.log2_self_le (Nat.pos_iff_ne_zero.mp hn)
  have nHigh : (n : ℚ) < 2 ^ ((n.log2 : Int) + 1) := by
    exact_mod_cast Nat.lt_log2_self
  have dLow : (2 : ℚ) ^ (d.log2 : Int) ≤ d := by
    exact_mod_cast Nat.log2_self_le (Nat.pos_iff_ne_zero.mp hd)
  have dHigh : (d : ℚ) < 2 ^ ((d.log2 : Int) + 1) := by
    exact_mod_cast Nat.lt_log2_self
  have upper : (n / d : ℚ) < 2 ^ ((n.log2 : Int) - d.log2 + 1) := by
    rw [div_lt_iff₀ dpos]
    calc (n : ℚ) < 2 ^ ((n.log2 : Int) + 1) := nHigh
      _ = 2 ^ ((n.log2 : Int) - d.log2 + 1) * 2 ^ (d.log2 : Int) := by
        rw [← zpow_add₀ two_ne_zero]; congr 1; ring
      _ ≤ 2 ^ ((n.log2 : Int) - d.log2 + 1) * d :=
        mul_le_mul_of_nonneg_left dLow (zpow_nonneg zero_le_two _)
  have lower : (2 : ℚ) ^ ((n.log2 : Int) - d.log2 - 1) ≤ n / d := by
    rw [le_div_iff₀ dpos]
    calc (2 : ℚ) ^ ((n.log2 : Int) - d.log2 - 1) * d
        ≤ 2 ^ ((n.log2 : Int) - d.log2 - 1) * 2 ^ ((d.log2 : Int) + 1) :=
          mul_le_mul_of_nonneg_left dHigh.le (zpow_nonneg zero_le_two _)
      _ = 2 ^ (n.log2 : Int) := by rw [← zpow_add₀ two_ne_zero]; congr 1; ring
      _ ≤ n := nLow
  unfold ratioLog
  dsimp only
  split
  · rename_i fits
    exact ⟨(scale_le_iff hd _).mp fits, upper⟩
  · rename_i misses
    refine ⟨lower, ?_⟩
    rw [sub_add_cancel]
    exact lt_of_not_ge fun fits => misses ((scale_le_iff hd _).mpr fits)

namespace Binary64

theorem finite_value (m : Nat) (e : Int) :
    (m : ℚ) * 2 ^ e = (m * scale 2 e : Nat) / (scale 2 (-e) : Nat) := by
  push_cast
  rw [scale_two e, eq_div_iff (scale_two_pos (-e)).ne']
  ring

theorem ceil_finite (m : Nat) (e : Int) :
    (finite false m e).ceil? = some ⌈(m : ℚ) * 2 ^ e⌉ := by
  have value : (m : ℚ) * 2 ^ e = ((m * scale 2 e : Nat) : Int) / (scale 2 (-e) : Nat) := by
    rw [finite_value, Int.cast_natCast]
  rw [value, Rat.ceil_intCast_div_natCast]
  simp only [ceil?, signed, Bool.false_eq_true, if_false]
  rw [Int.fdiv_eq_ediv_of_nonneg _ (by positivity)]

theorem natAbs_ceil_lt {negative : Bool} {m : Nat} {e n : Int}
    (ceiling : (finite negative m e).ceil? = some n) : (n.natAbs : ℚ) < m * 2 ^ e + 1 := by
  cases negative with
  | false =>
    rw [ceil_finite] at ceiling
    cases ceiling
    have close := Int.ceil_lt_add_one ((m : ℚ) * 2 ^ e)
    have least : (0 : ℚ) ≤ m * 2 ^ e := mul_nonneg m.cast_nonneg (zpow_pos two_pos e).le
    obtain ⟨c, same⟩ := Int.eq_ofNat_of_zero_le (Int.ceil_nonneg least)
    rw [same] at close ⊢
    exact_mod_cast close
  | true =>
    have floor : n.natAbs = m * scale 2 e / scale 2 (-e) := by
      rw [ceil?, Option.some.injEq] at ceiling
      rw [← ceiling, signed, if_pos rfl, neg_neg, Int.natAbs_neg,
        Int.fdiv_eq_ediv_of_nonneg _ (Int.natCast_nonneg _), ← Int.natCast_div, Int.natAbs_natCast]
    rw [floor, finite_value]
    exact lt_of_le_of_lt Nat.cast_div_le (lt_add_one _)

theorem truncate_finite (negative : Bool) (m : Nat) (e : Int) :
    (finite negative m e).truncate? = some (signed negative ⌊(m : ℚ) * 2 ^ e⌋₊) := by
  rw [finite_value, Nat.floor_div_eq_div, truncate?, Option.some.injEq]
  cases negative with
  | true =>
    simp only [signed, if_true, Int.neg_tdiv]
    rfl
  | false => rfl

theorem carry_value (e : Int) : ((2 * leastFull : Nat) : ℚ) * 2 ^ e = leastFull * 2 ^ (e + 1) := by
  rw [zpow_add_one₀ two_ne_zero]
  push_cast
  ring

/-- The mantissa of the number nearest to `n / d` when its last bit stands at `e`. -/
def nearest (n d : Nat) (e : Int) : Nat := roundHalfEven (n * scale 2 (-e)) (d * scale 2 e)

theorem nearest_near (n : Nat) {d : Nat} (positive : 0 < d) (e : Int) :
    (n / d : ℚ) ≤ nearest n d e * 2 ^ e + 2 ^ e / 2 ∧
      (nearest n d e : ℚ) * 2 ^ e ≤ n / d + 2 ^ e / 2 := by
  have dpos : (0 : ℚ) < d := by exact_mod_cast positive
  have unit : (0 : ℚ) < scale 2 (-e) := scale_two_pos (-e)
  have scaled : 0 < d * scale 2 e := Nat.mul_pos positive (by exact_mod_cast scale_two_pos e)
  obtain ⟨above, below⟩ := roundHalfEven_near (n * scale 2 (-e)) scaled
  rw [← nearest] at above below
  have above' : (2 * (n * scale 2 (-e)) : ℚ) ≤ (2 * nearest n d e + 1) * (d * scale 2 e) := by
    exact_mod_cast above
  have below' : (2 * nearest n d e * (d * scale 2 e) : ℚ) ≤
      2 * (n * scale 2 (-e)) + d * scale 2 e := by
    exact_mod_cast below
  rw [scale_two e] at above' below'
  constructor
  · rw [div_le_iff₀ dpos]
    nlinarith
  · rw [← sub_le_iff_le_add, le_div_iff₀ dpos]
    nlinarith

theorem two_zpow_units (r : Int) : (2 : ℚ) ^ r = 2 ^ 52 * 2 ^ (r - 52) := by
  rw [show r = 52 + (r - 52) by ring, zpow_add₀ two_ne_zero]
  norm_num

theorem nearest_power {n d : Nat} (positive : 0 < d) {r : Int} (power : (n / d : ℚ) = 2 ^ r) :
    (nearest n d (r - 52) : ℚ) * 2 ^ (r - 52) = n / d := by
  have unit : (0 : ℚ) < 2 ^ (r - 52) := zpow_pos two_pos _
  obtain ⟨above, below⟩ := nearest_near n positive (r - 52)
  rw [power, two_zpow_units r] at above below ⊢
  have lower : (2 : ℚ) ^ 52 < nearest n d (r - 52) + 1 := by nlinarith
  have upper : (nearest n d (r - 52) : ℚ) < 2 ^ 52 + 1 := by nlinarith
  have mantissa : nearest n d (r - 52) = 2 ^ 52 := by
    have lower' : 2 ^ 52 < nearest n d (r - 52) + 1 := by exact_mod_cast lower
    have upper' : nearest n d (r - 52) < 2 ^ 52 + 1 := by exact_mod_cast upper
    omega
  rw [mantissa]
  norm_num

/-- For totals of up to 53 bits a quotient that is no power of two stays strictly above the whole
number below the exact one: half a unit of its last place is less than `1 / d`. -/
theorem nearest_above {n d : Nat} (positive : 0 < d) (total : n ≤ 2 ^ 53) {r : Int}
    (power : (2 : ℚ) ^ r < n / d) :
    ((⌈(n / d : ℚ)⌉ : ℚ) - 1) < nearest n d (r - 52) * 2 ^ (r - 52) := by
  have dpos : (0 : ℚ) < d := by exact_mod_cast positive
  have near := (nearest_near n positive (r - 52)).1
  have small : (n : ℚ) ≤ 2 ^ 53 := by exact_mod_cast total
  have fine : (2 : ℚ) ^ (r - 52) * d < 2 := by
    rw [two_zpow_units r, lt_div_iff₀ dpos] at power
    nlinarith
  -- a fraction is at least `1 / d` above any whole number below it
  have step : (⌈(n / d : ℚ)⌉ - 1 : ℚ) * d + 1 ≤ n := by
    have below : ((⌈(n / d : ℚ)⌉ - 1 : Int) : ℚ) < n / d := by
      push_cast
      linarith [Int.ceil_lt_add_one (n / d : ℚ)]
    rw [lt_div_iff₀ dpos] at below
    have whole : (⌈(n / d : ℚ)⌉ - 1) * d + 1 ≤ (n : Int) := by exact_mod_cast below
    exact_mod_cast whole
  have exact : (n : ℚ) = n / d * d := (div_mul_cancel₀ _ dpos.ne').symm
  by_contra low
  have low := mul_le_mul_of_nonneg_right (not_lt.mp low) dpos.le
  nlinarith [mul_le_mul_of_nonneg_right near dpos.le]

theorem nearest_below {n d : Nat} (positive : 0 < d) {e : Int} (units : e ≤ 0) :
    (nearest n d e : ℚ) * 2 ^ e ≤ ⌈(n / d : ℚ)⌉ := by
  have dpos : (0 : ℚ) < d := by exact_mod_cast positive
  obtain ⟨c, ceiling⟩ := Int.eq_ofNat_of_zero_le (Int.ceil_nonneg (by positivity : (0 : ℚ) ≤ n / d))
  have one : scale 2 e = 1 := by simp [scale, Int.toNat_of_nonpos units]
  have bound : n ≤ c * d := by
    have h := Int.le_ceil (n / d : ℚ)
    rw [ceiling, div_le_iff₀ dpos] at h
    exact_mod_cast h
  have rounded : nearest n d e ≤ c * scale 2 (-e) := by
    apply roundHalfEven_le (by rw [one]; omega)
    rw [one]
    nlinarith [Nat.mul_le_mul_right (scale 2 (-e)) bound]
  have value : (nearest n d e : ℚ) * 2 ^ e ≤ c * scale 2 (-e) * 2 ^ e := by
    apply mul_le_mul_of_nonneg_right _ (zpow_nonneg zero_le_two _)
    exact_mod_cast rounded
  have unscaled : (scale 2 (-e) : ℚ) * 2 ^ e = 1 := by
    rw [mul_comm, ← scale_two, one, Nat.cast_one]
  rw [mul_assoc, unscaled, mul_one] at value
  rw [ceiling]
  exact_mod_cast value

theorem quotient_le {n d : Nat} (hd : 0 < d) (total : n ≤ 2 ^ 53) :
    (n / d : ℚ) ≤ 2 ^ (53 : Int) := by
  have dpos : (0 : ℚ) < d := by exact_mod_cast hd
  rw [div_le_iff₀ dpos]
  calc (n : ℚ) ≤ 2 ^ 53 := by exact_mod_cast total
    _ = 2 ^ (53 : Int) * 1 := by norm_num
    _ ≤ 2 ^ (53 : Int) * d :=
      mul_le_mul_of_nonneg_left (by exact_mod_cast hd) (zpow_nonneg zero_le_two _)

/-- Rounded up, a rounded quotient of a total of up to 53 bits is the exact one. -/
theorem ceil_nearest {n d : Nat} (hn : 0 < n) (hd : 0 < d) (total : n ≤ 2 ^ 53) :
    ⌈(nearest n d (ratioLog n d - 52) : ℚ) * 2 ^ (ratioLog n d - 52)⌉ = ⌈(n / d : ℚ)⌉ := by
  obtain ⟨low, _⟩ := ratioLog_bounds hn hd
  -- a power of two is its own quotient; any other leaves room below the next whole number
  rcases low.eq_or_lt with power | power
  · rw [nearest_power hd power.symm]
  · have range : ratioLog n d < 53 :=
      (zpow_lt_zpow_iff_right₀ one_lt_two).mp (power.trans_le (quotient_le hd total))
    rw [Int.ceil_eq_iff]
    exact ⟨nearest_above hd total power, nearest_below hd (by omega)⟩

theorem lastBit_eq {n d : Nat} (hn : 0 < n) (hd : 0 < d) (total : n ≤ 2 ^ 53)
    (size : d ≤ 2 ^ 53) : lastBit n d = ratioLog n d - 52 ∧ ratioLog n d ≤ 53 := by
  have dpos : (0 : ℚ) < d := by exact_mod_cast hd
  obtain ⟨low, high⟩ := ratioLog_bounds hn hd
  have least : (-53 : Int) < ratioLog n d + 1 := by
    have : (2 : ℚ) ^ (-53 : Int) < 2 ^ (ratioLog n d + 1) := by
      refine lt_of_le_of_lt ((le_div_iff₀ dpos).mpr ?_) high
      calc (2 : ℚ) ^ (-53 : Int) * d ≤ 2 ^ (-53 : Int) * 2 ^ 53 :=
            mul_le_mul_of_nonneg_left (by exact_mod_cast size) (zpow_nonneg zero_le_two _)
        _ = 1 := by norm_num
        _ ≤ n := by exact_mod_cast hn
    exact (zpow_lt_zpow_iff_right₀ one_lt_two).mp this
  have most : ratioLog n d ≤ 53 :=
    (zpow_le_zpow_iff_right₀ one_lt_two).mp (low.trans (quotient_le hd total))
  refine ⟨?_, most⟩
  unfold lastBit leastExponent
  dsimp only
  rw [if_neg (by omega)]

theorem ceil_ofRatio {n d : Nat} (hd : 0 < d) (total : n ≤ 2 ^ 53) (size : d ≤ 2 ^ 53) :
    (ofRatio false n d).ceil? = some ⌈(n / d : ℚ)⌉ := by
  rcases Nat.eq_zero_or_pos n with rfl | hn
  · simp [ofRatio, zero, ceil_finite]
  · obtain ⟨last, most⟩ := lastBit_eq hn hd total size
    have exact := ceil_nearest hn hd total
    unfold ofRatio
    rw [if_neg hn.ne']
    dsimp only
    rw [last, ← nearest]
    split
    · rename_i carry
      rw [if_neg (by unfold greatestExponent; omega), ceil_finite, ← carry_value, ← carry, exact]
    · rw [if_neg (by unfold greatestExponent; omega), ceil_finite, exact]

theorem quotient_natCast (n d : Nat) : quotient n d = ofRatio false n d := by
  have signs : ¬ (n : Int) < 0 ∧ ¬ (d : Int) < 0 := by omega
  simp only [quotient, signs.1, signs.2, decide_false, bne_self_eq_false, Int.natAbs_natCast]

end Binary64

namespace Totals

/-- The number of pages is the exact ceiling for totals and page sizes of up to 53 bits. -/
theorem pageCount_exact {total size : Nat} (positive : 0 < size) (small : total ≤ 2 ^ 53)
    (fine : size ≤ 2 ^ 53) :
    ∃ pages : Nat, pageCount total size = .ok pages ∧ total ≤ pages * size ∧
      ∀ k : Nat, total ≤ k * size → pages ≤ k := by
  have spos : (0 : ℚ) < size := by exact_mod_cast positive
  obtain ⟨pages, ceiling⟩ :=
    Int.eq_ofNat_of_zero_le (Int.ceil_nonneg (by positivity : (0 : ℚ) ≤ total / size))
  refine ⟨pages, ?_, ?_, ?_⟩
  · have exact := Binary64.ceil_ofRatio positive small fine
    rw [ceiling] at exact
    simp only [pageCount, Binary64.quotient_natCast, exact]
  · have h := Int.le_ceil (total / size : ℚ)
    rw [ceiling, div_le_iff₀ spos] at h
    exact_mod_cast h
  · intro k enough
    have h : ⌈(total / size : ℚ)⌉ ≤ (k : Int) := by
      rw [Int.ceil_le, div_le_iff₀ spos]
      exact_mod_cast enough
    rw [ceiling] at h
    exact_mod_cast h

end Totals
end PagedQuery
