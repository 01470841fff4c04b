import Mathlib.Data.List.TakeWhile
import PagedQuery.Number.Basic

/-! The texts of numbers are numerals: a minus sign or none, digits, and perhaps a fraction and an
exponent. This holds of every whole number and of every finite binary number in any layout. -/
namespace PagedQuery

namespace Decimal

def Digits (cs : List Char) : Prop := cs ≠ [] ∧ ∀ c ∈ cs, c.isDigit = true

inductive Sign : List Char → Prop
  | plain : Sign []
  | minus : Sign ['-']

inductive Fraction : List Char → Prop
  | absent : Fraction []
  | present {ds : List Char} (h : Digits ds) : Fraction ('.' :: ds)

inductive Exponent : List Char → Prop
  | absent : Exponent []
  | raised {ds : List Char} (h : Digits ds) : Exponent ('e' :: '+' :: ds)
  | lowered {ds : List Char} (h : Digits ds) : Exponent ('e' :: '-' :: ds)

inductive IsUnsigned : List Char → Prop
  | mk {whole fraction exponent : List Char} (hw : Digits whole) (hf : Fraction fraction)
    (he : Exponent exponent) : IsUnsigned (whole ++ fraction ++ exponent)

inductive IsNumeral : List Char → Prop
  | mk {sign unsigned : List Char} (hs : Sign sign) (hu : IsUnsigned unsigned) :
    IsNumeral (sign ++ unsigned)

theorem digit_range {c : Char} (digit : c.isDigit = true) : 48 ≤ c.toNat ∧ c.toNat ≤ 57 := by
  simp only [Char.isDigit, Bool.and_eq_true, decide_eq_true_eq, ge_iff_le, UInt32.le_iff_toNat_le]
    at digit
  exact digit

def isMark (c : Char) : Bool := c.isDigit || c == '-' || c == '+' || c == '.' || c == 'e'

theorem isMark_iff {c : Char} : isMark c = true ↔ c.isDigit = true ∨ c ∈ ['-', '+', '.', 'e'] := by
  simp [isMark, or_assoc]

theorem Digits.marks {cs : List Char} (h : Digits cs) : ∀ c ∈ cs, isMark c = true := by
  intro c member
  simp [isMark, h.2 c member]

theorem Fraction.marks {cs : List Char} (h : Fraction cs) : ∀ c ∈ cs, isMark c = true := by
  cases h with
  | absent => simp
  | present digits => exact List.forall_mem_cons.mpr ⟨rfl, digits.marks⟩

theorem Exponent.marks {cs : List Char} (h : Exponent cs) : ∀ c ∈ cs, isMark c = true := by
  cases h with
  | absent => simp
  | raised digits =>
    exact List.forall_mem_cons.mpr ⟨rfl, List.forall_mem_cons.mpr ⟨rfl, digits.marks⟩⟩
  | lowered digits =>
    exact List.forall_mem_cons.mpr ⟨rfl, List.forall_mem_cons.mpr ⟨rfl, digits.marks⟩⟩

theorem IsUnsigned.marks {cs : List Char} (h : IsUnsigned cs) : ∀ c ∈ cs, isMark c = true := by
  cases h with
  | mk whole fraction exponent =>
    exact List.forall_mem_append.mpr
      ⟨List.forall_mem_append.mpr ⟨whole.marks, fraction.marks⟩, exponent.marks⟩

theorem IsNumeral.marks {cs : List Char} (h : IsNumeral cs) : ∀ c ∈ cs, isMark c = true := by
  cases h with
  | mk sign unsigned =>
    cases sign with
    | plain => exact unsigned.marks
    | minus => exact List.forall_mem_cons.mpr ⟨rfl, unsigned.marks⟩

theorem IsNumeral.ne_nil {cs : List Char} (h : IsNumeral cs) : cs ≠ [] := by
  cases h with
  | mk sign unsigned =>
    cases unsigned with
    | mk whole fraction exponent => simp [whole.1]

theorem digits_toDigits (n : Nat) : Digits (Nat.toDigits 10 n) :=
  ⟨Nat.toDigits_ne_nil, fun _ member => Nat.isDigit_of_mem_toDigits (by decide) (by decide) member⟩

theorem digits_zero : Digits ['0'] := digits_toDigits 0

theorem digits_replicate_zero (n : Nat) : ∀ c ∈ List.replicate n '0', c.isDigit = true := by
  intro c member
  rw [List.eq_of_mem_replicate member]
  rfl

theorem Digits.append {cs ds : List Char} (some : cs ≠ [] ∨ ds ≠ [])
    (hc : ∀ c ∈ cs, c.isDigit = true) (hd : ∀ d ∈ ds, d.isDigit = true) : Digits (cs ++ ds) := by
  refine ⟨?_, fun c member => ?_⟩
  · rwa [ne_eq, List.append_eq_nil_iff, not_and_or]
  · exact (List.mem_append.mp member).elim (hc c) (hd c)

theorem Digits.unsigned {cs : List Char} (h : Digits cs) : IsUnsigned cs := by
  have numeral := IsUnsigned.mk h .absent .absent
  rwa [List.append_nil, List.append_nil] at numeral

/-- Zero is read back as zero, so it stands for no other number. -/
theorem onGrid?_ne_zero {m n d k : Nat} {e place : Int} (nonzero : m ≠ 0)
    (found : onGrid? (.finite false m e) n d place = some k) : k ≠ 0 := by
  rintro rfl
  have unread : ∀ i j, Binary64.ofRatio false (0 * i) j ≠ .finite false m e := by
    intro i j same
    rw [Nat.zero_mul, Binary64.ofRatio, if_pos rfl] at same
    exact nonzero (Binary64.finite.inj same).2.1.symm
  simp only [onGrid?] at found
  split at found
  · rename_i fits
    split at found
    · cases found
    · rw [Option.some.inj found] at fits
      exact unread _ _ fits
  · split at found <;> cases found

theorem shortest_ne_zero {m : Nat} (nonzero : m ≠ 0) (e : Int) : (shortest m e).1 ≠ 0 := by
  simp only [shortest]
  generalize (List.range 17).map _ = places
  cases written : places.findSome? _ with
  | none => exact nonzero
  | some found =>
    obtain ⟨place, _, onPlace⟩ := List.exists_of_findSome?_eq_some written
    obtain ⟨k, onGrid, rfl⟩ := Option.map_eq_some_iff.mp onPlace
    exact onGrid?_ne_zero nonzero onGrid

theorem ofDigitChars_zeros {cs : List Char} (zeros : ∀ c ∈ cs, c = '0') :
    Nat.ofDigitChars 10 cs 0 = 0 := by
  induction cs with
  | nil => rfl
  | cons c cs ih =>
    obtain ⟨rfl, more⟩ := List.forall_mem_cons.mp zeros
    exact ih more

theorem digits_significant {k : Nat} (nonzero : k ≠ 0) :
    Digits ((Nat.toDigits 10 k).reverse.dropWhile (· = '0')).reverse := by
  constructor
  · intro none
    rw [List.reverse_eq_nil_iff, List.dropWhile_eq_nil_iff] at none
    have zeros : ∀ c ∈ Nat.toDigits 10 k, c = '0' := fun c member => by
      simpa using none c (List.mem_reverse.mpr member)
    have value := ofDigitChars_zeros zeros
    rw [Nat.ofDigitChars_ten_toDigits] at value
    exact nonzero value
  · intro c member
    have kept := List.dropWhile_subset _ (List.mem_reverse.mp member)
    exact (digits_toDigits k).2 c (List.mem_reverse.mp kept)

end Decimal

open Decimal

theorem Number.intText_isNumeral (n : Int) : IsNumeral (intText n).toList := by
  rw [intText, String.toList_ofList]
  refine .mk ?_ (digits_toDigits _).unsigned
  split
  · exact .minus
  · exact .plain

namespace Layout

variable {digits : List Char} (h : Digits digits)
include h

theorem positional_isUnsigned (lead : Int) : IsUnsigned (positional digits lead) := by
  unfold positional
  split
  · have fraction := Digits.append (.inr h.1) (digits_replicate_zero (-lead - 1).toNat) h.2
    have numeral := IsUnsigned.mk digits_zero (.present fraction) .absent
    rwa [List.append_nil] at numeral
  · have leading : digits.take (lead.toNat + 1) ≠ [] := by simpa using h.1
    have whole := Digits.append (.inl leading) (fun c member => h.2 c (List.mem_of_mem_take member))
      (digits_replicate_zero (lead.toNat + 1 - digits.length))
    have fraction : Digits (if (digits.drop (lead.toNat + 1)).isEmpty then ['0']
        else digits.drop (lead.toNat + 1)) := by
      split
      · exact digits_zero
      · rename_i more
        exact ⟨by simpa using more, fun c member => h.2 c (List.mem_of_mem_drop member)⟩
    have numeral := IsUnsigned.mk whole (.present fraction) .absent
    rwa [List.append_nil] at numeral

theorem padLeft_digits (width : Nat) : Digits (padLeft width digits) :=
  .append (.inr h.1) (digits_replicate_zero _) h.2

theorem scientific_isUnsigned (width : Nat) (lead : Int) :
    IsUnsigned (scientific width digits lead) := by
  have leading : Digits (digits.take 1) :=
    ⟨by simpa using h.1, fun c member => h.2 c (List.mem_of_mem_take member)⟩
  have fraction : Fraction (if (digits.drop 1).isEmpty then [] else '.' :: digits.drop 1) := by
    split
    · exact .absent
    · rename_i more
      exact .present ⟨by simpa using more, fun c member => h.2 c (List.mem_of_mem_drop member)⟩
  have places := padLeft_digits (digits_toDigits lead.natAbs) width
  refine .mk leading fraction ?_
  split
  · exact .lowered places
  · exact .raised places

end Layout

theorem Layout.write_isNumeral (layout : Layout) {x : Binary64} (finite : x.isFinite = true) :
    IsNumeral (layout.write x) := by
  cases x with
  | nan => cases finite
  | infinite negative => cases finite
  | finite negative m e =>
    have sign : Sign (if negative then ['-'] else []) := by
      cases negative
      · exact .plain
      · exact .minus
    simp only [write]
    split
    · exact .mk sign (.mk digits_zero (.present digits_zero) .absent)
    · rename_i nonzero
      have digits := digits_significant (shortest_ne_zero nonzero e)
      refine .mk sign ?_
      split
      · exact positional_isUnsigned digits _
      · exact scientific_isUnsigned digits _ _

end PagedQuery
