import Mathlib.Data.List.TakeWhile
import PagedQuery.Proofs.Number.Numerals
import PagedQuery.Proofs.Text.Digits

/-! The grammar of numerals for whole numbers: white space around an optional sign and digits of
any scripts, of which single underscores may keep two apart. A text is read as a number exactly if
it is a numeral for it with no more digits than are converted. -/
namespace PagedQuery.Text

inductive Grouped : List Char → List Char → Prop
  | last {d : Char} (digit : (digitValue? d).isSome = true) : Grouped [d] [d]
  | next {d : Char} {cs ds : List Char} (digit : (digitValue? d).isSome = true)
    (rest : Grouped cs ds) : Grouped (d :: cs) (d :: ds)
  | apart {d : Char} {cs ds : List Char} (digit : (digitValue? d).isSome = true)
    (rest : Grouped cs ds) : Grouped (d :: '_' :: cs) (d :: ds)

inductive Signed : List Char → Bool → Prop
  | none : Signed [] false
  | plus : Signed ['+'] false
  | minus : Signed ['-'] true

inductive IsWholeNumeral : List Char → Int → Prop
  | mk {left sign text digits right : List Char} {negative : Bool} {n : Nat}
    (before : ∀ c ∈ left, isBlank c = true) (signed : Signed sign negative)
    (grouped : Grouped text digits) (writes : Writes digits n)
    (short : digits.length ≤ maxDigits) (after : ∀ c ∈ right, isBlank c = true) :
    IsWholeNumeral (left ++ (sign ++ text) ++ right) (if negative then -(n : Int) else n)

section Separators

variable {cs ds : List Char}

theorem isDigit_of_value {d : Char} (digit : (digitValue? d).isSome = true) : isDigit d = true := by
  rw [isDigit, digit, Bool.true_or]

theorem ne_of_value {d : Char} (digit : (digitValue? d).isSome = true) {c : Char}
    (mark : c.toNat ∈ [0x2b, 0x2d, 0x5f] ++ blankNumbers) : d ≠ c := by
  rintro rfl
  cases (isDigit_eq_false mark).symm.trans (isDigit_of_value digit)

theorem Grouped.opens (h : Grouped cs ds) :
    ∃ d rest, cs = d :: rest ∧ (digitValue? d).isSome = true := by
  cases h with
  | last digit => exact ⟨_, _, rfl, digit⟩
  | next digit _ => exact ⟨_, _, rfl, digit⟩
  | apart digit _ => exact ⟨_, _, rfl, digit⟩

theorem Grouped.closes (h : Grouped cs ds) :
    ∃ init d, cs = init ++ [d] ∧ (digitValue? d).isSome = true := by
  induction h with
  | last digit => exact ⟨[], _, rfl, digit⟩
  | next _ _ ih =>
    obtain ⟨init, d, rfl, digit⟩ := ih
    exact ⟨_ :: init, d, rfl, digit⟩
  | apart _ _ ih =>
    obtain ⟨init, d, rfl, digit⟩ := ih
    exact ⟨_ :: '_' :: init, d, rfl, digit⟩

theorem Grouped.digits (h : Grouped cs ds) : ∀ d ∈ ds, (digitValue? d).isSome = true := by
  induction h with
  | last digit => exact List.forall_mem_singleton.mpr digit
  | next digit _ ih => exact List.forall_mem_cons.mpr ⟨digit, ih⟩
  | apart digit _ ih => exact List.forall_mem_cons.mpr ⟨digit, ih⟩

theorem Grouped.dropSeparators (h : Grouped cs ds) : dropSeparators cs = some ds := by
  induction h with
  | last digit =>
    have other := ne_of_value digit (c := '_') (by decide)
    simp [Text.dropSeparators, other]
  | @next d cs ds digit rest ih =>
    obtain ⟨c, more, rfl, first⟩ := rest.opens
    have other := ne_of_value digit (c := '_') (by decide)
    have plain := ne_of_value first (c := '_') (by decide)
    rw [Text.dropSeparators, if_neg other, ih]
    · rfl
    · intro d' rest' same
      exact plain (List.cons.inj same).1
  | @apart d cs ds digit rest ih =>
    obtain ⟨c, more, rfl, first⟩ := rest.opens
    simp [Text.dropSeparators, digit, first, ih]

theorem grouped_of_dropSeparators (kept : dropSeparators cs = some ds)
    (values : ∀ d ∈ ds, (digitValue? d).isSome = true) : (cs = [] ∧ ds = []) ∨ Grouped cs ds := by
  fun_induction Text.dropSeparators cs generalizing ds with
  | case1 =>
    cases kept
    exact .inl ⟨rfl, rfl⟩
  | case2 c d rest both ih =>
    obtain ⟨more, dropped, rfl⟩ := Option.map_eq_some_iff.mp kept
    obtain ⟨digit, more'⟩ := List.forall_mem_cons.mp values
    rcases ih dropped more' with ⟨⟨⟩, _⟩ | grouped
    exact .inr (.apart digit grouped)
  | case3 c d rest notBoth => cases kept
  | case4 rest => cases kept
  | case5 c rest _ _ ih =>
    obtain ⟨more, dropped, rfl⟩ := Option.map_eq_some_iff.mp kept
    obtain ⟨digit, more'⟩ := List.forall_mem_cons.mp values
    rcases ih dropped more' with ⟨rfl, rfl⟩ | grouped
    · exact .inr (.last digit)
    · exact .inr (.next digit grouped)

end Separators

section Blanks

variable {core : List Char}

theorem trim_split (cs : List Char) : ∃ left right, cs = left ++ trim cs ++ right ∧
    (∀ c ∈ left, isBlank c = true) ∧ ∀ c ∈ right, isBlank c = true := by
  refine ⟨cs.takeWhile isBlank, ((cs.dropWhile isBlank).reverse.takeWhile isBlank).reverse, ?_, ?_,
    ?_⟩
  · rw [trim, dropRightWhile, List.append_assoc, ← List.reverse_append,
      List.takeWhile_append_dropWhile, List.reverse_reverse, List.takeWhile_append_dropWhile]
  · exact fun c member => List.mem_takeWhile_imp member
  · exact fun c member => List.mem_takeWhile_imp (List.mem_reverse.mp member)

theorem dropWhile_blank {left rest : List Char} {c : Char} (blank : ∀ c ∈ left, isBlank c = true)
    (stops : isBlank c = false) : (left ++ c :: rest).dropWhile isBlank = c :: rest := by
  rw [List.dropWhile_append_of_pos blank, List.dropWhile_cons, stops]
  rfl

theorem trim_between {left right init rest : List Char} {c d : Char}
    (before : ∀ c ∈ left, isBlank c = true) (after : ∀ c ∈ right, isBlank c = true)
    (opens : core = c :: rest) (closes : core = init ++ [d]) (first : isBlank c = false)
    (last : isBlank d = false) : trim (left ++ core ++ right) = core := by
  have back : (core ++ right).reverse = right.reverse ++ d :: init.reverse := by
    simp [closes]
  rw [trim, List.append_assoc, opens, List.cons_append, dropWhile_blank before first,
    ← List.cons_append, ← opens, dropRightWhile, back, dropWhile_blank _ last]
  · simp [closes]
  · exact fun c member => after c (List.mem_reverse.mp member)

end Blanks

/-- A text without the white space around it is a sign and the rest, which has no sign of its own
if there is none before it. -/
theorem exists_signed (cs : List Char) :
    ∃ sign unsigned negative, cs = sign ++ unsigned ∧ Signed sign negative ∧
      (sign = [] → ∀ rest, unsigned ≠ '-' :: rest ∧ unsigned ≠ '+' :: rest) := by
  by_cases minus : ∃ rest, cs = '-' :: rest
  · obtain ⟨rest, rfl⟩ := minus
    exact ⟨['-'], rest, true, rfl, .minus, nofun⟩
  · by_cases plus : ∃ rest, cs = '+' :: rest
    · obtain ⟨rest, rfl⟩ := plus
      exact ⟨['+'], rest, false, rfl, .plus, nofun⟩
    · exact ⟨[], cs, false, rfl, .none, fun _ rest =>
        ⟨fun same => minus ⟨rest, same⟩, fun same => plus ⟨rest, same⟩⟩⟩

theorem wholeNumeral?_of_trim {cs sign unsigned : List Char} {negative : Bool}
    (trimmed : trim cs = sign ++ unsigned) (signed : Signed sign negative)
    (plain : sign = [] → ∀ rest, unsigned ≠ '-' :: rest ∧ unsigned ≠ '+' :: rest) (n : Int) :
    wholeNumeral? cs = some n ↔ ∃ digits m, dropSeparators unsigned = some digits ∧
      Writes digits m ∧ digits.length ≤ maxDigits ∧
      n = if negative then -(m : Int) else m := by
  have read : wholeNumeral? cs = (dropSeparators unsigned).bind fun digits =>
      let values := digits.filterMap digitValue?
      if digits.isEmpty || values.length < digits.length || maxDigits < digits.length then
        none
      else some (if negative then -(ofDigits values : Int) else ofDigits values) := by
    rw [wholeNumeral?, trimmed]
    cases signed with
    | none =>
      split
      rename_i parts
      split at parts
      · rename_i same
        exact absurd same (plain rfl _).1
      · rename_i same
        exact absurd same (plain rfl _).2
      · cases parts
        rw [List.nil_append]
        cases dropSeparators unsigned <;> rfl
    | plus =>
      simp only [List.singleton_append]
      cases dropSeparators unsigned <;> rfl
    | minus =>
      simp only [List.singleton_append]
      cases dropSeparators unsigned <;> rfl
  rw [read]
  cases dropSeparators unsigned with
  | none => simp
  | some digits =>
    simp only [writes_iff, Option.bind_some, Option.some.injEq]
    constructor
    · intro fits
      split at fits
      · cases fits
      · rename_i fine
        simp only [Bool.or_eq_true, List.isEmpty_iff, decide_eq_true_eq, not_or] at fine
        cases fits
        exact ⟨digits, _, rfl, ⟨fine.1.1, fine.1.2, rfl⟩, Nat.le_of_not_lt fine.2, rfl⟩
    · rintro ⟨_, _, ⟨⟩, ⟨nonempty, long, rfl⟩, short, rfl⟩
      rw [if_neg]
      simp only [Bool.or_eq_true, List.isEmpty_iff, decide_eq_true_eq, not_or]
      exact ⟨⟨nonempty, long⟩, Nat.not_lt_of_le short⟩

theorem wholeNumeral?_iff (cs : List Char) (n : Int) :
    wholeNumeral? cs = some n ↔ IsWholeNumeral cs n := by
  constructor
  · intro read
    obtain ⟨left, right, split, before, after⟩ := trim_split cs
    obtain ⟨sign, unsigned, negative, trimmed, signed, plain⟩ := exists_signed (trim cs)
    obtain ⟨digits, m, dropped, writes, short, rfl⟩ :=
      (wholeNumeral?_of_trim trimmed signed plain n).mp read
    have grouped : Grouped unsigned digits := by
      rcases grouped_of_dropSeparators dropped writes.values with ⟨_, rfl⟩ | grouped
      · exact absurd rfl writes.1
      · exact grouped
    rw [split, trimmed]
    exact .mk before signed grouped writes short after
  · rintro ⟨before, signed, grouped, writes, short, after⟩
    rename_i left sign text digits right negative m
    obtain ⟨d, rest, opens, first⟩ := grouped.opens
    obtain ⟨init, e, closes, last⟩ := grouped.closes
    have trimmed : trim (left ++ (sign ++ text) ++ right) = sign ++ text := by
      have blanks : ∀ {d}, (digitValue? d).isSome = true → isBlank d = false :=
        fun digit => not_isBlank_of_isDigit (isDigit_of_value digit)
      have ends : sign ++ text = (sign ++ init) ++ [e] := by simp [closes]
      cases signed with
      | none => exact trim_between before after opens ends (blanks first) (blanks last)
      | plus => exact trim_between before after rfl ends rfl (blanks last)
      | minus => exact trim_between before after rfl ends rfl (blanks last)
    refine (wholeNumeral?_of_trim trimmed signed ?_ _).mpr
      ⟨digits, m, grouped.dropSeparators, writes, short, rfl⟩
    intro _ rest'
    rw [opens]
    exact ⟨fun same => ne_of_value first (c := '-') (by decide) (List.cons.inj same).1,
      fun same => ne_of_value first (c := '+') (by decide) (List.cons.inj same).1⟩

theorem digitValue?_ascii {c : Char} (digit : c.isDigit = true) :
    digitValue? c = some (c.toNat - 48) := by
  obtain ⟨low, high⟩ := Decimal.digit_range digit
  have first : (48 ≤ c.toNat && c.toNat < 48 + 10) = true := by
    simp only [Bool.and_eq_true, decide_eq_true_eq]
    omega
  have found : zeros.find? (fun z => z ≤ c.toNat && c.toNat < z + 10) = some 48 :=
    List.find?_cons_of_pos first
  rw [digitValue?, found]
  rfl

theorem values_ascii {cs : List Char} (digits : ∀ c ∈ cs, c.isDigit = true) :
    cs.filterMap digitValue? = cs.map (·.toNat - 48) := by
  induction cs with
  | nil => rfl
  | cons c cs ih =>
    obtain ⟨digit, more⟩ := List.forall_mem_cons.mp digits
    rw [List.filterMap_cons_some (digitValue?_ascii digit), ih more, List.map_cons]

theorem writes_toDigits (n : Nat) : Writes (Nat.toDigits 10 n) n := by
  obtain ⟨nonempty, digits⟩ := Decimal.digits_toDigits n
  rw [writes_iff, values_ascii digits]
  refine ⟨nonempty, by simp, ?_⟩
  rw [ofDigits, List.foldl_map]
  exact Nat.ofDigitChars_ten_toDigits.symm

theorem grouped_self {cs : List Char} (nonempty : cs ≠ [])
    (digits : ∀ c ∈ cs, (digitValue? c).isSome = true) : Grouped cs cs := by
  induction cs with
  | nil => exact absurd rfl nonempty
  | cons c cs ih =>
    obtain ⟨digit, more⟩ := List.forall_mem_cons.mp digits
    cases cs with
    | nil => exact .last digit
    | cons d cs => exact .next digit (ih (by simp) more)

theorem intText_isWholeNumeral {n : Int}
    (short : (Nat.toDigits 10 n.natAbs).length ≤ maxDigits) :
    IsWholeNumeral (Number.intText n).toList n := by
  have writes := writes_toDigits n.natAbs
  have grouped := grouped_self writes.1 writes.values
  have blank : ∀ c ∈ ([] : List Char), isBlank c = true := nofun
  rw [Number.intText, String.toList_ofList]
  by_cases negative : n < 0
  · have numeral := IsWholeNumeral.mk blank .minus grouped writes short blank
    have value : -(n.natAbs : Int) = n := by omega
    rw [List.append_nil, List.nil_append, if_pos rfl, value] at numeral
    rwa [if_pos negative]
  · have numeral := IsWholeNumeral.mk blank .none grouped writes short blank
    have value : (n.natAbs : Int) = n := by omega
    rw [List.append_nil, List.nil_append, if_neg Bool.false_ne_true, value] at numeral
    rwa [if_neg negative]

end PagedQuery.Text
