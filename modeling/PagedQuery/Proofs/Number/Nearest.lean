import Mathlib.Algebra.Order.Ring.Abs
import PagedQuery.Proofs.Number.Quotient

/-! Correct rounding. A rounded quotient is the nearest of all numbers that 53 bits can hold, a
half going to the even one; no other number is. Where the exponents end, rounding goes to zero at
one end and fails at the other, and both ends are told by the exact quotient. -/
namespace PagedQuery.Binary64

/-- The numbers with 53 significant bits, however large they are. -/
def OnGrid (v : ℚ) : Prop :=
  ∃ (m : Nat) (e : Int), m < 2 ^ 53 ∧ leastExponent ≤ e ∧ v = m * 2 ^ e

structure Nearest (x v : ℚ) : Prop where
  onGrid : OnGrid v
  closest : ∀ w, OnGrid w → |x - v| ≤ |x - w|
  -- of two that are as near, `v` is an even multiple of their distance, twice that of `x` to either
  even : ∀ w, OnGrid w → w ≠ v → |x - w| = |x - v| →
    ∃ (k : Nat) (e : Int), v = (2 * k : Nat) * 2 ^ e ∧ |x - v| = 2 ^ e / 2

theorem two_zpow_pos (e : Int) : (0 : ℚ) < 2 ^ e := zpow_pos two_pos e

theorem multiples_apart {j k : Nat} (other : j ≠ k) {u : ℚ} (positive : 0 < u) :
    u ≤ |(j : ℚ) * u - k * u| := by
  have whole : (1 : ℚ) ≤ |(j : ℚ) - k| := by
    have h : 1 ≤ |(j : Int) - k| := Int.one_le_abs (by omega)
    exact_mod_cast h
  rw [← sub_mul, abs_mul, abs_of_pos positive]
  exact le_mul_of_one_le_left positive.le whole

theorem Nearest.unique {x v w : ℚ} (hv : Nearest x v) (hw : Nearest x w) : v = w := by
  by_contra other
  have same : |x - w| = |x - v| := le_antisymm (hw.closest v hv.onGrid) (hv.closest w hw.onGrid)
  obtain ⟨j, e, rfl, half⟩ := hv.even w hw.onGrid (Ne.symm other) same
  obtain ⟨k, f, rfl, half'⟩ := hw.even _ hv.onGrid other same.symm
  -- both stand half a unit from `x`, and even multiples of a unit are two units apart
  have units : (2 : ℚ) ^ f = 2 ^ e := by linarith
  rw [units] at other same half'
  have distinct : 2 * j ≠ 2 * k := fun h => other (by rw [h])
  have positive := two_zpow_pos e
  have apart : 2 * (2 : ℚ) ^ e ≤ |((2 * j : Nat) : ℚ) * 2 ^ e - (2 * k : Nat) * 2 ^ e| := by
    have h := multiples_apart (j := j) (k := k) (by omega) (u := 2 * 2 ^ e) (by linarith)
    calc 2 * (2 : ℚ) ^ e ≤ |(j : ℚ) * (2 * 2 ^ e) - k * (2 * 2 ^ e)| := h
      _ = |((2 * j : Nat) : ℚ) * 2 ^ e - (2 * k : Nat) * 2 ^ e| := by
        congr 1
        push_cast
        ring
  have triangle := abs_sub_le (((2 * j : Nat) : ℚ) * 2 ^ e) x ((2 * k : Nat) * 2 ^ e)
  rw [abs_sub_comm _ x] at triangle
  linarith

/-- A number of the grid is a multiple of a given unit, or it is less than all multiples that need
53 bits. -/
theorem OnGrid.side {w : ℚ} (grid : OnGrid w) (e : Int) :
    (∃ k : Nat, w = k * 2 ^ e) ∨ (leastExponent < e ∧ w < 2 ^ 52 * 2 ^ e) := by
  obtain ⟨m, f, bits, least, rfl⟩ := grid
  rcases le_or_gt e f with coarse | fine
  · refine .inl ⟨m * 2 ^ (f - e).toNat, ?_⟩
    have split : (2 : ℚ) ^ f = 2 ^ (f - e).toNat * 2 ^ e := by
      rw [← zpow_natCast, ← zpow_add₀ two_ne_zero]
      congr 1
      omega
    rw [split]
    push_cast
    ring
  · refine .inr ⟨by omega, ?_⟩
    have room : (2 : ℚ) ^ 53 * 2 ^ f ≤ 2 ^ 52 * 2 ^ e := by
      have h : (2 : ℚ) ^ (f + 1) ≤ 2 ^ e := zpow_le_zpow_right₀ one_le_two (by omega)
      rw [zpow_add_one₀ two_ne_zero] at h
      linarith
    refine lt_of_lt_of_le (mul_lt_mul_of_pos_right ?_ (two_zpow_pos f)) room
    exact_mod_cast bits

theorem onGrid_of_le {m : Nat} {e : Int} (bits : m ≤ 2 ^ 53) (least : leastExponent ≤ e) :
    OnGrid (m * 2 ^ e) := by
  rcases bits.lt_or_eq with bits | rfl
  · exact ⟨m, e, bits, least, rfl⟩
  · refine ⟨2 ^ 52, e + 1, by norm_num, by omega, ?_⟩
    rw [zpow_add_one₀ two_ne_zero]
    push_cast
    ring

section Quotients

variable {n d : Nat}

def rounded (n d : Nat) : ℚ := nearest n d (lastBit n d) * 2 ^ lastBit n d

theorem abs_sub_nearest (n : Nat) (hd : 0 < d) (e : Int) :
    |(n / d : ℚ) - nearest n d e * 2 ^ e| ≤ 2 ^ e / 2 := by
  obtain ⟨above, below⟩ := nearest_near n hd e
  rw [abs_le]
  constructor <;> linarith

/-- A quotient that is half a unit off was rounded to an even multiple. -/
theorem even_of_half {n d : Nat} (hd : 0 < d)
    (half : 2 * n + d = 2 * roundHalfEven n d * d ∨ 2 * n = (2 * roundHalfEven n d + 1) * d) :
    Even (roundHalfEven n d) := by
  have whole := Nat.div_add_mod n d
  have part := Nat.mod_lt n hd
  have down : 2 * (n / d) * d = 2 * (d * (n / d)) := by ring
  have up : 2 * (n / d + 1) * d = 2 * (d * (n / d)) + 2 * d := by ring
  have middle : (2 * (n / d) + 1) * d = 2 * (d * (n / d)) + d := by ring
  have above : (2 * (n / d + 1) + 1) * d = 2 * (d * (n / d)) + 3 * d := by ring
  revert half
  unfold roundHalfEven
  dsimp only
  split
  · omega
  · split
    · omega
    · intro _
      rw [Nat.even_iff]
      omega

theorem nearest_even (hd : 0 < d) {e : Int}
    (half : |(n / d : ℚ) - nearest n d e * 2 ^ e| = 2 ^ e / 2) : Even (nearest n d e) := by
  have dpos : (0 : ℚ) < d := by exact_mod_cast hd
  have unit : (0 : ℚ) < scale 2 (-e) := scale_two_pos (-e)
  have scaled : 0 < d * scale 2 e := Nat.mul_pos hd (by exact_mod_cast scale_two_pos e)
  have power := scale_two e
  apply even_of_half scaled
  rw [← nearest]
  rcases (abs_eq (half_pos (two_zpow_pos e)).le).mp half with off | off
  · right
    have value : (n : ℚ) = (nearest n d e * 2 ^ e + 2 ^ e / 2) * d := by
      rw [← div_eq_iff dpos.ne']
      linarith
    have cast : (2 * (n * scale 2 (-e)) : ℚ) = (2 * nearest n d e + 1) * (d * scale 2 e) := by
      rw [power, value]
      ring
    exact_mod_cast cast
  · left
    have value : (n : ℚ) = (nearest n d e * 2 ^ e - 2 ^ e / 2) * d := by
      rw [← div_eq_iff dpos.ne']
      linarith
    have cast : (2 * (n * scale 2 (-e)) + d * scale 2 e : ℚ) =
        2 * nearest n d e * (d * scale 2 e) := by
      rw [power, value]
      ring
    exact_mod_cast cast

theorem lastBit_cases (hn : 0 < n) (hd : 0 < d) :
    leastExponent ≤ lastBit n d ∧ (n / d : ℚ) < 2 ^ 53 * 2 ^ lastBit n d ∧
      (leastExponent < lastBit n d → 2 ^ 52 * 2 ^ lastBit n d ≤ (n / d : ℚ)) := by
  obtain ⟨low, high⟩ := ratioLog_bounds hn hd
  have bits (e : Int) : (2 : ℚ) ^ 52 * 2 ^ e = 2 ^ (52 + e) := by
    rw [zpow_add₀ two_ne_zero]
    rfl
  have more (e : Int) : (2 : ℚ) ^ 53 * 2 ^ e = 2 ^ (53 + e) := by
    rw [zpow_add₀ two_ne_zero]
    rfl
  rw [bits, more]
  unfold lastBit
  dsimp only
  split
  · rename_i least
    refine ⟨le_rfl, high.trans_le (zpow_le_zpow_right₀ one_le_two (by omega)), ?_⟩
    intro impossible
    exact absurd impossible (lt_irrefl _)
  · rename_i above
    refine ⟨by omega, high.trans_le (zpow_le_zpow_right₀ one_le_two (by omega)), ?_⟩
    intro _
    rw [show 52 + (ratioLog n d - 52) = ratioLog n d by ring]
    exact low

theorem nearest_bounds (hn : 0 < n) (hd : 0 < d) :
    nearest n d (lastBit n d) ≤ 2 ^ 53 ∧
      (leastExponent < lastBit n d → 2 ^ 52 ≤ nearest n d (lastBit n d)) := by
  obtain ⟨_, high, low⟩ := lastBit_cases hn hd
  have near := abs_le.mp (abs_sub_nearest n hd (lastBit n d))
  have unit := two_zpow_pos (lastBit n d)
  constructor
  · have h : (nearest n d (lastBit n d) : ℚ) < 2 ^ 53 + 1 := by nlinarith
    have h : nearest n d (lastBit n d) < 2 ^ 53 + 1 := by exact_mod_cast h
    omega
  · intro above
    have low := low above
    have h : (2 : ℚ) ^ 52 < nearest n d (lastBit n d) + 1 := by nlinarith
    have h : 2 ^ 52 < nearest n d (lastBit n d) + 1 := by exact_mod_cast h
    omega

theorem rounded_zero (d : Nat) : rounded 0 d = 0 := by
  simp [rounded, nearest, roundHalfEven]

/-- A number of the grid is as near to a quotient as some multiple of its last bit at best, and
only if it is that multiple. -/
theorem OnGrid.beside {w : ℚ} (grid : OnGrid w) (hn : 0 < n) (hd : 0 < d) :
    ∃ k : Nat, w = k * 2 ^ lastBit n d ∨
      |(n / d : ℚ) - k * 2 ^ lastBit n d| < |(n / d : ℚ) - w| := by
  rcases grid.side (lastBit n d) with ⟨k, same⟩ | ⟨above, below⟩
  · exact ⟨k, .inl same⟩
  · have low := (lastBit_cases hn hd).2.2 above
    refine ⟨2 ^ 52, .inr ?_⟩
    push_cast
    rw [abs_of_nonneg (by linarith), abs_of_nonneg (by linarith)]
    linarith

theorem half_le_of_other (hd : 0 < d) {e : Int} {k : Nat} (other : nearest n d e ≠ k) :
    (2 : ℚ) ^ e / 2 ≤ |(n / d : ℚ) - k * 2 ^ e| := by
  have apart := multiples_apart other (two_zpow_pos e)
  have near := abs_sub_nearest n hd e
  have triangle := abs_sub_le ((nearest n d e : ℚ) * 2 ^ e) (n / d) (k * 2 ^ e)
  rw [abs_sub_comm] at near
  linarith

theorem nearest_best (n : Nat) (hd : 0 < d) (e : Int) (k : Nat) :
    |(n / d : ℚ) - nearest n d e * 2 ^ e| ≤ |(n / d : ℚ) - k * 2 ^ e| := by
  by_cases same : nearest n d e = k
  · rw [same]
  · exact (abs_sub_nearest n hd e).trans (half_le_of_other hd same)

theorem rounded_nearest (n : Nat) (hd : 0 < d) : Nearest (n / d) (rounded n d) := by
  rcases Nat.eq_zero_or_pos n with rfl | hn
  · rw [rounded_zero]
    have zero : OnGrid 0 := ⟨0, 0, by norm_num, by decide, by simp⟩
    refine ⟨zero, fun w _ => by simp, ?_⟩
    intro w _ other same
    simp only [Nat.cast_zero, zero_div, sub_zero, abs_zero, zero_sub, abs_neg, abs_eq_zero] at same
    exact absurd same other
  · have best := nearest_best n hd (lastBit n d)
    have near := abs_sub_nearest n hd (lastBit n d)
    unfold rounded
    refine ⟨onGrid_of_le (nearest_bounds hn hd).1 (lastBit_cases hn hd).1, ?_, ?_⟩
    · intro w grid
      obtain ⟨k, rfl | farther⟩ := grid.beside hn hd
      · exact best k
      · exact (best k).trans farther.le
    · intro w grid other same
      obtain ⟨k, rfl | farther⟩ := grid.beside hn hd
      · have distinct : nearest n d (lastBit n d) ≠ k := fun h => other (by rw [h])
        have half := le_antisymm near (same ▸ half_le_of_other hd distinct)
        obtain ⟨j, twice⟩ := nearest_even hd half
        refine ⟨j, lastBit n d, ?_, half⟩
        rw [twice, two_mul]
      · exact absurd same (ne_of_gt ((best k).trans_lt farther))

end Quotients

section Ends

variable {x v w : ℚ} (near : Nearest x v) {k : Nat} {e : Int}
include near

theorem Nearest.nonneg : 0 ≤ v := by
  obtain ⟨m, e, _, _, rfl⟩ := near.onGrid
  exact mul_nonneg (Nat.cast_nonneg m) (two_zpow_pos e).le

theorem Nearest.middle_le (grid : OnGrid w) (below : w < v) : w + v ≤ 2 * x := by
  have squares := sq_le_sq.mpr (near.closest w grid)
  by_contra before
  nlinarith [mul_pos (sub_pos.mpr below) (sub_pos.mpr (not_le.mp before))]

theorem Nearest.le_middle (grid : OnGrid w) (above : v < w) : 2 * x ≤ v + w := by
  have squares := sq_le_sq.mpr (near.closest w grid)
  by_contra after
  nlinarith [mul_pos (sub_pos.mpr above) (sub_pos.mpr (not_le.mp after))]

theorem Nearest.beside (full : leastExponent < e → 2 ^ 52 ≤ k) :
    v ≤ k * 2 ^ e ∨ (k + 1 : Nat) * 2 ^ e ≤ v := by
  have unit := two_zpow_pos e
  rcases near.onGrid.side e with ⟨j, rfl⟩ | ⟨above, below⟩
  · rcases Nat.lt_or_ge k j with more | fewer
    · exact .inr (mul_le_mul_of_nonneg_right (by exact_mod_cast more) unit.le)
    · exact .inl (mul_le_mul_of_nonneg_right (by exact_mod_cast fewer) unit.le)
  · have enough : (2 : ℚ) ^ 52 ≤ k := by exact_mod_cast full above
    exact .inl (below.le.trans (mul_le_mul_of_nonneg_right enough unit.le))

theorem Nearest.even_of_middle (value : v = k * 2 ^ e) (grid : OnGrid w) (other : w ≠ v)
    (half : |x - v| = 2 ^ e / 2) (same : |x - w| = 2 ^ e / 2) : Even k := by
  obtain ⟨i, f, twice, half'⟩ := near.even w grid other (same.trans half.symm)
  have units : (2 : ℚ) ^ f = 2 ^ e := by linarith
  rw [units, value] at twice
  have double : k = 2 * i := by exact_mod_cast mul_right_cancel₀ (two_zpow_pos e).ne' twice
  exact ⟨i, by omega⟩

/-- Of two neighbours the upper one is reached from their middle on, and in the middle itself when
it is the even one. -/
theorem Nearest.next_le_iff (bits : k < 2 ^ 53) (least : leastExponent ≤ e)
    (full : leastExponent < e → 2 ^ 52 ≤ k) :
    (k + 1 : Nat) * 2 ^ e ≤ v ↔
      if Even k then k * 2 ^ e + 2 ^ e / 2 < x else k * 2 ^ e + 2 ^ e / 2 ≤ x := by
  have unit := two_zpow_pos e
  have step : ((k + 1 : Nat) : ℚ) * 2 ^ e = k * 2 ^ e + 2 ^ e := by
    push_cast
    ring
  have low : OnGrid (k * 2 ^ e) := onGrid_of_le bits.le least
  have high : OnGrid ((k + 1 : Nat) * 2 ^ e) := onGrid_of_le bits least
  constructor
  · intro reached
    have middle := near.middle_le low (by linarith)
    split
    · rename_i even
      refine lt_of_le_of_ne (by linarith) fun same => ?_
      have value : v = (k + 1 : Nat) * 2 ^ e := by linarith
      have odd := near.even_of_middle value low (by linarith)
        (by rw [abs_of_nonpos] <;> linarith) (by rw [abs_of_nonneg] <;> linarith)
      exact (Nat.even_add_one.mp odd) even
    · linarith
  · intro beyond
    refine (near.beside full).resolve_left fun below => ?_
    have middle := near.le_middle high (by linarith)
    split at beyond
    · linarith
    · rename_i odd
      have value : v = k * 2 ^ e := by linarith
      exact odd (near.even_of_middle value high (by linarith)
        (by rw [abs_of_nonneg] <;> linarith) (by rw [abs_of_nonpos] <;> linarith))

end Ends

/-- The least quotient that is rounded to more than all finite numbers: the middle of the greatest
one and the next number. -/
def overflowBound : Nat := 2 ^ 1024 - 2 ^ 970

theorem two_pow_add (j k : Nat) : (2 : ℚ) ^ (j + k) = 2 ^ j * 2 ^ (k : Int) := by
  rw [pow_add, zpow_natCast]

theorem two_pow_1024 : (2 : ℚ) ^ 1024 = 2 ^ 53 * 2 ^ greatestExponent := two_pow_add 53 971

theorem overflowBound_value : (overflowBound : ℚ) =
    (2 ^ 53 - 1 : Nat) * 2 ^ greatestExponent + 2 ^ greatestExponent / 2 := by
  have unit : (2 : ℚ) ^ greatestExponent = 2 * 2 ^ 970 := by
    rw [← pow_succ']
    exact zpow_natCast 2 971
  have smaller (k : Nat) : 2 ^ k ≤ 2 ^ (k + 54) := Nat.pow_le_pow_right two_pos (by omega)
  rw [overflowBound, Nat.cast_sub (smaller 970), Nat.cast_pow,
    Nat.cast_pow, Nat.cast_ofNat, two_pow_1024, unit]
  generalize (2 : ℚ) ^ 970 = u
  norm_num
  ring

theorem Nearest.overflows_iff {x v : ℚ} (near : Nearest x v) :
    2 ^ 1024 ≤ v ↔ overflowBound ≤ x := by
  have h := near.next_le_iff (k := 2 ^ 53 - 1) (e := greatestExponent) (by decide) (by decide)
    (fun _ => by decide)
  rw [if_neg (by decide), ← overflowBound_value] at h
  have top : ((2 ^ 53 - 1 + 1 : Nat) : ℚ) * 2 ^ greatestExponent = 2 ^ 1024 := by
    rw [two_pow_1024]
    norm_num
  rw [← h, top]

theorem two_zpow_least : (2 : ℚ) ^ 1075 * 2 ^ leastExponent = 2 := by
  rw [← zpow_natCast, ← zpow_add₀ two_ne_zero]
  exact zpow_one 2

theorem Nearest.vanishes_iff {x v : ℚ} (near : Nearest x v) : v = 0 ↔ 2 ^ 1075 * x ≤ 1 := by
  have unit := two_zpow_pos leastExponent
  have none : leastExponent < leastExponent → 2 ^ 52 ≤ 0 :=
    fun impossible => absurd impossible (lt_irrefl _)
  have h := near.next_le_iff (k := 0) (by decide) le_rfl none
  rw [if_pos (by decide), Nat.cast_zero, zero_mul, zero_add, zero_add, Nat.cast_one, one_mul] at h
  have zero : v = 0 ↔ ¬ 2 ^ leastExponent ≤ v := by
    have side := near.beside (k := 0) none
    rw [Nat.cast_zero, zero_mul, zero_add, Nat.cast_one, one_mul] at side
    constructor
    · rintro rfl
      exact not_le.mpr unit
    · intro below
      exact le_antisymm (side.resolve_right below) near.nonneg
  have half : (2 : ℚ) ^ 1075 * (2 ^ leastExponent / 2) = 1 := by
    rw [← mul_div_assoc, two_zpow_least, div_self two_ne_zero]
  rw [zero, h, not_lt, ← half, mul_le_mul_iff_of_pos_left (pow_pos two_pos 1075)]

theorem lt_top_iff {m : Nat} {e : Int} (bits : m < 2 ^ 53)
    (full : leastExponent < e → 2 ^ 52 ≤ m) :
    (m * 2 ^ e : ℚ) < 2 ^ 1024 ↔ ¬ greatestExponent < e := by
  rw [two_pow_1024, not_lt]
  constructor
  · intro below
    by_contra above
    have enough : (2 : ℚ) ^ 52 ≤ m := by
      exact_mod_cast full (lt_trans (by decide) (not_le.mp above))
    have large : (2 : ℚ) ^ (greatestExponent + 1) ≤ 2 ^ e :=
      zpow_le_zpow_right₀ one_le_two (by omega)
    rw [zpow_add_one₀ two_ne_zero] at large
    have product := mul_le_mul enough large (mul_nonneg (two_zpow_pos _).le zero_le_two)
      (Nat.cast_nonneg m)
    linarith
  · intro within
    calc (m * 2 ^ e : ℚ) < 2 ^ 53 * 2 ^ e :=
          mul_lt_mul_of_pos_right (by exact_mod_cast bits) (two_zpow_pos e)
      _ ≤ 2 ^ 53 * 2 ^ greatestExponent :=
          mul_le_mul_of_nonneg_left (zpow_le_zpow_right₀ one_le_two within) (by norm_num)

/-- A quotient becomes the finite number that it is rounded to, or infinity beyond all of them. -/
theorem ofRatio_rounded (negative : Bool) (n : Nat) {d : Nat} (hd : 0 < d) :
    ∃ (m : Nat) (e : Int), m * 2 ^ e = rounded n d ∧ ofRatio negative n d =
      if rounded n d < 2 ^ 1024 then finite negative m e else infinite negative := by
  rcases Nat.eq_zero_or_pos n with rfl | hn
  · refine ⟨0, leastExponent, by simp [rounded_zero], ?_⟩
    rw [rounded_zero, if_pos (pow_pos two_pos 1024), ofRatio, if_pos rfl, zero]
  · obtain ⟨bits, full⟩ := nearest_bounds hn hd
    unfold ofRatio
    rw [if_neg hn.ne', rounded]
    dsimp only
    rw [← nearest]
    generalize nearest n d (lastBit n d) = m at *
    generalize lastBit n d = e at *
    by_cases carry : m = 2 * leastFull
    · rw [if_pos carry, carry, carry_value]
      refine ⟨leastFull, e + 1, rfl, ?_⟩
      simp only [lt_top_iff (m := leastFull) (e := e + 1) (by decide) (fun _ => by decide), ite_not]
    · rw [if_neg carry]
      refine ⟨m, e, rfl, ?_⟩
      simp only [lt_top_iff (bits.lt_of_ne carry) full, ite_not]

end PagedQuery.Binary64
