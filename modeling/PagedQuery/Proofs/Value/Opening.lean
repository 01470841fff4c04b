import PagedQuery.Proofs.Number.Numerals
import PagedQuery.Proofs.Value.Writing
import PagedQuery.Text.Case

/-! How the texts of values open: only strings can spell a word that begins with the first or the
fourth letter of the alphabet, in either case. -/
namespace PagedQuery

/-- An ASCII character whose capital form is neither of the two letters. -/
def Neutral (c : Char) : Prop := c.toNat < 128 ∧ c.toUpper ≠ 'A' ∧ c.toUpper ≠ 'D'

instance (c : Char) : Decidable (Neutral c) := by unfold Neutral; infer_instance

def OpensNeutral (cs : List Char) : Prop := ∃ c rest, cs = c :: rest ∧ Neutral c

theorem OpensNeutral.cons {c : Char} (neutral : Neutral c) (rest : List Char) :
    OpensNeutral (c :: rest) :=
  ⟨c, rest, rfl, neutral⟩

theorem OpensNeutral.append {cs : List Char} (opens : OpensNeutral cs) (rest : List Char) :
    OpensNeutral (cs ++ rest) := by
  obtain ⟨c, more, rfl, neutral⟩ := opens
  exact ⟨c, more ++ rest, rfl, neutral⟩

theorem neutral_of_isDigit {c : Char} (digit : c.isDigit = true) : Neutral c := by
  obtain ⟨low, high⟩ := Decimal.digit_range digit
  have same : c.toUpper = c := by
    have notSmall : ¬ (c.val ≥ 'a'.val ∧ c.val ≤ 'z'.val) := by
      rintro ⟨small, _⟩
      have : 97 ≤ c.toNat := UInt32.le_iff_toNat_le.mp small
      omega
    exact dif_neg notSmall
  refine ⟨by omega, ?_, ?_⟩ <;>
  · rw [same]
    rintro rfl
    exact absurd high (by decide)

theorem neutral_of_isMark {c : Char} (mark : Decimal.isMark c = true) : Neutral c := by
  rcases Decimal.isMark_iff.mp mark with digit | other
  · exact neutral_of_isDigit digit
  · simp only [List.mem_cons, List.not_mem_nil, or_false] at other
    rcases other with rfl | rfl | rfl | rfl <;> decide

theorem Decimal.IsNumeral.opensNeutral {cs : List Char} (numeral : IsNumeral cs) :
    OpensNeutral cs := by
  obtain ⟨c, rest, rfl⟩ := List.exists_cons_of_ne_nil numeral.ne_nil
  exact .cons (neutral_of_isMark (numeral.marks c List.mem_cons_self)) rest

theorem Number.intText_opensNeutral (n : Int) : OpensNeutral (intText n).toList :=
  (intText_isNumeral n).opensNeutral

theorem Layout.write_opensNeutral (layout : Layout) (x : Binary64) :
    OpensNeutral (layout.write x) := by
  cases x with
  | nan => exact .cons (by decide) _
  | infinite negative => cases negative <;> exact .cons (by decide) _
  | finite negative m e => exact (layout.write_isNumeral rfl).opensNeutral

/-- The text of a value that is no string opens with a character of its form. -/
theorem Value.text_opensNeutral [Runtime] {v : Value} (noString : ∀ s, v ≠ .string s) {s : String}
    (written : v.text = .ok s) : OpensNeutral s.toList := by
  cases v with
  | null =>
    cases written
    exact .cons (by decide) _
  | bool b =>
    cases written
    cases b <;> exact .cons (by decide) _
  | int n =>
    obtain ⟨-, rfl⟩ := Number.wholeText_ok_iff.mp written
    exact Number.intText_opensNeutral n
  | real x =>
    cases written
    have opens := Layout.write_opensNeutral .plain x
    rwa [← String.toList_ofList (l := Layout.plain.write x)] at opens
  | string s => exact absurd rfl (noString s)
  | list items =>
    obtain ⟨texts, rfl⟩ := Value.text_list_ok written
    simp only [String.toList_append]
    exact .append (.append (.cons (by decide) _) _) _
  | object entries =>
    obtain ⟨texts, rfl⟩ := Value.text_object_ok written
    simp only [String.toList_append]
    exact .append (.append (.cons (by decide) _) _) _

theorem OpensNeutral.upper {s : String} (opens : OpensNeutral s.toList) (rest : List Char) :
    (Text.upper s).toList ≠ 'A' :: rest ∧ (Text.upper s).toList ≠ 'D' :: rest := by
  obtain ⟨c, more, same, ascii, notA, notD⟩ := opens
  have capital : (Text.upper s).toList = c.toUpper :: more.flatMap Text.upperChar := by
    rw [Text.upper, String.toList_ofList, same, List.flatMap_cons, Text.upperChar, if_pos ascii]
    rfl
  rw [capital]
  exact ⟨fun h => notA (List.cons.inj h).1, fun h => notD (List.cons.inj h).1⟩

end PagedQuery
