import Mathlib.Data.List.Forall2
import Mathlib.Data.List.Induction
import Mathlib.Data.Nat.Digits.Defs
import PagedQuery.Text.Digit

/-! Texts of digits and the numbers that they write. A text that looks like digits throughout is
read as a number exactly if every digit has a place value and there are not too many of them. -/
namespace PagedQuery.Text

/-- The number that a row of digits of any scripts writes in base ten, the first digit counting
most. -/
def Writes (cs : List Char) (n : Nat) : Prop :=
  cs ≠ [] ∧ ∃ ds, List.Forall₂ (fun c d => digitValue? c = some d) cs ds ∧
    n = Nat.ofDigits 10 ds.reverse

def AllDigits (cs : List Char) : Prop := cs ≠ [] ∧ ∀ c ∈ cs, isDigit c = true

theorem allDigits_iff (cs : List Char) :
    AllDigits cs ↔ (cs.isEmpty || !cs.all isDigit) = false := by
  simp [AllDigits]

theorem ofDigits_eq (ds : List Nat) : ofDigits ds = Nat.ofDigits 10 ds.reverse := by
  induction ds using List.reverseRecOn with
  | nil => rfl
  | append_singleton ds d ih =>
    rw [List.reverse_append, List.reverse_singleton, List.singleton_append, Nat.ofDigits_cons, ← ih,
      ofDigits, List.foldl_append]
    exact Nat.add_comm _ _

theorem digits_forall₂_iff (cs : List Char) (ds : List Nat) :
    List.Forall₂ (fun c d => digitValue? c = some d) cs ds ↔
      cs.filterMap digitValue? = ds ∧ ¬ (cs.filterMap digitValue?).length < cs.length := by
  induction cs generalizing ds with
  | nil => simp [List.forall₂_nil_left_iff, eq_comm]
  | cons c cs ih =>
    rw [List.forall₂_cons_left_iff]
    cases value : digitValue? c with
    | none =>
      have short := List.length_filterMap_le digitValue? cs
      rw [List.filterMap_cons_none value]
      simp only [List.length_cons]
      constructor
      · rintro ⟨d, _, ⟨⟩, _⟩
      · rintro ⟨_, long⟩
        omega
    | some d =>
      rw [List.filterMap_cons_some value]
      simp only [ih, List.length_cons, Nat.add_lt_add_iff_right]
      constructor
      · rintro ⟨_, _, ⟨⟩, ⟨rfl, long⟩, rfl⟩
        exact ⟨rfl, long⟩
      · rintro ⟨rfl, long⟩
        exact ⟨d, _, rfl, ⟨rfl, long⟩, rfl⟩

theorem writes_iff (cs : List Char) (n : Nat) :
    Writes cs n ↔ cs ≠ [] ∧ ¬ (cs.filterMap digitValue?).length < cs.length ∧
      n = ofDigits (cs.filterMap digitValue?) := by
  simp only [Writes, digits_forall₂_iff, ofDigits_eq]
  constructor
  · rintro ⟨nonempty, _, ⟨rfl, long⟩, same⟩
    exact ⟨nonempty, long, same⟩
  · rintro ⟨nonempty, long, same⟩
    exact ⟨nonempty, _, ⟨rfl, long⟩, same⟩

def blankNumbers : List Nat :=
  [9, 10, 11, 12, 13, 0x20, 0x85, 0xa0, 0x1680, 0x2000, 0x2001, 0x2002, 0x2003, 0x2004, 0x2005,
   0x2006, 0x2007, 0x2008, 0x2009, 0x200a, 0x2028, 0x2029, 0x202f, 0x205f, 0x3000]

theorem mem_blankNumbers {c : Char} (blank : isBlank c = true) : c.toNat ∈ blankNumbers := by
  simp only [isBlank, Bool.or_eq_true, Bool.and_eq_true, decide_eq_true_eq, beq_iff_eq] at blank
  simp only [blankNumbers, List.mem_cons, List.not_mem_nil, or_false]
  omega

theorem not_isDigit_of_number : ∀ n ∈ [0x2b, 0x2d, 0x5f] ++ blankNumbers,
    (zeros.find? fun z => z ≤ n && n < z + 10) = none ∧
      (looseDigitRanges.any fun r => r.1 ≤ n && n ≤ r.2) = false := by
  decide

theorem isDigit_eq_false {c : Char} (number : c.toNat ∈ [0x2b, 0x2d, 0x5f] ++ blankNumbers) :
    isDigit c = false := by
  obtain ⟨noZero, notLoose⟩ := not_isDigit_of_number c.toNat number
  rw [isDigit, digitValue?, noZero, notLoose]
  rfl

theorem not_isBlank_of_isDigit {c : Char} (digit : isDigit c = true) : isBlank c = false := by
  cases blank : isBlank c with
  | false => rfl
  | true =>
    have number := List.mem_append_right [0x2b, 0x2d, 0x5f] (mem_blankNumbers blank)
    cases digit.symm.trans (isDigit_eq_false number)

theorem trim_of_isDigit {cs : List Char} (digits : ∀ c ∈ cs, isDigit c = true) : trim cs = cs := by
  have keep : ∀ ds : List Char, (∀ c ∈ ds, isDigit c = true) → ds.dropWhile isBlank = ds := by
    intro ds digits
    cases ds with
    | nil => rfl
    | cons c ds =>
      rw [List.dropWhile_cons, not_isBlank_of_isDigit (digits c List.mem_cons_self)]
      rfl
  rw [trim, keep cs digits, dropRightWhile, keep cs.reverse, List.reverse_reverse]
  exact fun c member => digits c (List.mem_reverse.mp member)

theorem dropSeparators_of_isDigit {cs : List Char} (digits : ∀ c ∈ cs, isDigit c = true) :
    dropSeparators cs = some cs := by
  have noUnderscore : isDigit '_' = false := isDigit_eq_false (by decide)
  fun_induction dropSeparators cs with
  | case1 => rfl
  | case2 c d rest values ih =>
    cases noUnderscore.symm.trans (digits '_' (by simp))
  | case3 c d rest values =>
    cases noUnderscore.symm.trans (digits '_' (by simp))
  | case4 rest =>
    cases noUnderscore.symm.trans (digits '_' List.mem_cons_self)
  | case5 c rest _ _ ih =>
    rw [ih fun d member => digits d (List.mem_cons_of_mem c member)]
    rfl

/-- What looks like digits throughout is read without a sign and without separators. -/
theorem wholeNumeral?_of_allDigits {cs : List Char} (digits : AllDigits cs) :
    wholeNumeral? cs =
      if (cs.filterMap digitValue?).length < cs.length ∨ maxDigits < cs.length then none
      else some (ofDigits (cs.filterMap digitValue?) : Int) := by
  obtain ⟨nonempty, digits⟩ := digits
  have unsigned : ∀ c : Char, c.toNat = 0x2d ∨ c.toNat = 0x2b → ∀ rest, cs ≠ c :: rest := by
    rintro c sign rest rfl
    have number : c.toNat ∈ [0x2b, 0x2d, 0x5f] ++ blankNumbers := by
      rcases sign with sign | sign <;> simp [sign]
    cases (isDigit_eq_false number).symm.trans (digits c List.mem_cons_self)
  have present : cs.isEmpty = false := by simpa using nonempty
  rw [wholeNumeral?, trim_of_isDigit digits]
  split
  rename_i split
  split at split
  · exact absurd rfl (unsigned '-' (.inl rfl) _)
  · exact absurd rfl (unsigned '+' (.inr rfl) _)
  · cases split
    simp [dropSeparators_of_isDigit digits, present]

theorem wholeNumeral?_eq_some_iff {cs : List Char} (digits : AllDigits cs) (n : Int) :
    wholeNumeral? cs = some n ↔
      ∃ m : Nat, n = m ∧ Writes cs m ∧ cs.length ≤ maxDigits := by
  rw [wholeNumeral?_of_allDigits digits]
  simp only [writes_iff]
  constructor
  · intro read
    split at read
    · cases read
    · rename_i fits
      cases read
      obtain ⟨long, short⟩ := not_or.mp fits
      exact ⟨_, rfl, ⟨digits.1, long, rfl⟩, Nat.le_of_not_lt short⟩
  · rintro ⟨m, rfl, ⟨_, long, rfl⟩, short⟩
    rw [if_neg (not_or.mpr ⟨long, Nat.not_lt_of_le short⟩)]

theorem Writes.values {cs : List Char} {n : Nat} (writes : Writes cs n) :
    ∀ c ∈ cs, (digitValue? c).isSome = true := by
  obtain ⟨-, ds, values, -⟩ := writes
  induction values with
  | nil => exact nofun
  | cons value _ ih => exact List.forall_mem_cons.mpr ⟨by rw [value]; rfl, ih⟩

theorem Writes.allDigits {cs : List Char} {n : Nat} (writes : Writes cs n) : AllDigits cs :=
  ⟨writes.1, fun c member => by rw [isDigit, writes.values c member, Bool.true_or]⟩

end PagedQuery.Text
