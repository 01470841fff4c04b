import PagedQuery.Proofs.Number.Numerals
import PagedQuery.Proofs.Sql.Readable
import PagedQuery.Proofs.Sql.Statement

/-! Literals that can be read back: whole numbers, quoted strings without their quote, and lists of
them. -/
namespace PagedQuery

theorem Number.intText_toList (n : Int) :
    (intText n).toList = (if n < 0 then ['-'] else []) ++ Nat.toDigits 10 n.natAbs := by
  rw [intText, String.toList_ofList]

theorem Number.intText_injective {a b : Int} (same : intText a = intText b) : a = b := by
  have digits {m n : Nat} (same : Nat.toDigits 10 m = Nat.toDigits 10 n) : m = n := by
    rw [← Nat.ofDigitChars_ten_toDigits (n := m), same, Nat.ofDigitChars_ten_toDigits]
  have noSign {n : Nat} {rest : List Char} : Nat.toDigits 10 n ≠ '-' :: rest := by
    intro written
    exact absurd ((Decimal.digits_toDigits n).2 '-' (written ▸ List.mem_cons_self)) (by decide)
  have chars := congrArg String.toList same
  rw [intText_toList, intText_toList] at chars
  by_cases negA : a < 0 <;> by_cases negB : b < 0 <;>
    simp only [negA, negB, if_true, if_false, List.nil_append, List.singleton_append] at chars
  · have := digits (List.cons.inj chars).2
    omega
  · exact absurd chars.symm noSign
  · exact absurd chars noSign
  · have := digits chars
    omega

namespace Sql

def isNumeral (c : Char) : Bool := c.isDigit || c == '-'

theorem intText_numeral (n : Int) : ∀ c ∈ (Number.intText n).toList, isNumeral c = true := by
  intro c member
  rw [Number.intText_toList] at member
  rcases List.mem_append.mp member with sign | digit
  · split at sign
    · rw [List.mem_singleton.mp sign]
      rfl
    · cases sign
  · simp [isNumeral, (Decimal.digits_toDigits n.natAbs).2 c digit]

theorem intText_cons (n : Int) :
    ∃ c rest, (Number.intText n).toList = c :: rest ∧ isNumeral c = true := by
  obtain ⟨c, rest, written⟩ := List.exists_cons_of_ne_nil (Number.intText_isNumeral n).ne_nil
  exact ⟨c, rest, written, intText_numeral n c (written ▸ List.mem_cons_self)⟩

theorem readable_int :
    Readable (fun _ : Int => True) (fun n => (Number.intText n).toList) (Ends isNumeral) :=
  (readable_span isNumeral).comap (fun n _ => intText_numeral n) (fun _ => rfl)
    fun _ _ => Number.intText_injective

theorem readable_quoted (mark : Char) :
    Readable (fun s : String => mark ∉ s.toList) (fun s => [mark] ++ (s.toList ++ [mark]))
      (fun _ => True) := by
  have inside : ∀ s : String, mark ∉ s.toList → ∀ c ∈ s.toList, (c != mark) = true := by
    intro s without c member
    simp only [bne_iff_ne]
    rintro rfl
    exact without member
  have ends : ∀ k, Ends (· != mark) ([mark] ++ k) := fun k => .of_cons (by simp) k
  exact (((readable_span (· != mark)).weaken inside fun _ h => h).close [mark] ends _).lead [mark]

/-- A value in a list that has a literal of its own: a string without the quote that is used there,
or a whole number. -/
def PlainItem : Value → Prop
  | .string s => '"' ∉ s.toList
  | .int _ => True
  | _ => False

/-- A value that has a literal of its own, as values of a query that was read have unless they hold
quotes or fractions. -/
def PlainValue : Value → Prop
  | .string s => '\'' ∉ s.toList
  | .int _ => True
  | .list items => ∀ item ∈ items, PlainItem item
  | _ => False

def plainItem : Value → String
  | .string s => "\"" ++ s ++ "\""
  | .int n => Number.intText n
  | _ => ""

def plainLiteral : Value → String
  | .string s => "'" ++ s ++ "'"
  | .int n => Number.intText n
  | .list items => "(" ++ joinWith "," (items.map plainItem) ++ ")"
  | _ => ""

theorem listItem_plain [Runtime] {v : Value} (plain : PlainItem v) {text : String}
    (written : listItem v = .ok text) : text = plainItem v := by
  cases v with
  | string s => exact (Except.ok.inj written).symm
  | int n => exact (Number.wholeText_ok_iff.mp written).2
  | _ => cases plain

theorem literal_plain [Runtime] {v : Value} (plain : PlainValue v) {text : String}
    (written : literal v = .ok text) : text = plainLiteral v := by
  cases v with
  | string s => exact (Except.ok.inj written).symm
  | int n => exact (Number.wholeText_ok_iff.mp written).2
  | list items =>
    rw [literal_list] at written
    obtain ⟨texts, members, rfl⟩ := Except.map_ok_iff.mp written
    have same := Except.map_eq_of_mapM members fun item member _ done =>
      listItem_plain (plain item member) done
    rw [plainLiteral, same]
  | _ => cases plain

theorem plainItem_string (s : String) :
    (plainItem (.string s)).toList = ['"'] ++ (s.toList ++ ['"']) := by
  simp [plainItem]

theorem plainItem_int (n : Int) : (plainItem (.int n)).toList = (Number.intText n).toList := rfl

theorem plainLiteral_string (s : String) :
    (plainLiteral (.string s)).toList = ['\''] ++ (s.toList ++ ['\'']) := by
  simp [plainLiteral]

theorem plainLiteral_int (n : Int) :
    (plainLiteral (.int n)).toList = (Number.intText n).toList := rfl

theorem plainLiteral_list (items : List Value) :
    (plainLiteral (.list items)).toList =
      ['('] ++ ((joinWith "," (items.map plainItem)).toList ++ [')']) := by
  simp [plainLiteral]

theorem intText_append_ne {n : Int} {mark : Char} (other : isNumeral mark = false)
    (k l : List Char) : (Number.intText n).toList ++ k ≠ [mark] ++ l := by
  obtain ⟨c, rest, written, numeral⟩ := intText_cons n
  rw [written]
  intro same
  cases (List.cons.inj same).1
  cases numeral.symm.trans other

theorem readable_item :
    Readable PlainItem (fun v => (plainItem v).toList) (Ends isNumeral) := by
  intro a b k l plainA plainB endsK endsL same
  cases a with
  | string s =>
    cases b with
    | string t =>
      simp only [plainItem_string] at same
      obtain ⟨rfl, after⟩ := readable_quoted '"' plainA plainB trivial trivial same
      exact ⟨rfl, after⟩
    | int n =>
      simp only [plainItem_string, plainItem_int, List.append_assoc] at same
      exact absurd same.symm (intText_append_ne rfl _ _)
    | _ => cases plainB
  | int m =>
    cases b with
    | string t =>
      simp only [plainItem_string, plainItem_int, List.append_assoc] at same
      exact absurd same (intText_append_ne rfl _ _)
    | int n =>
      simp only [plainItem_int] at same
      obtain ⟨rfl, after⟩ := readable_int trivial trivial endsK endsL same
      exact ⟨rfl, after⟩
    | _ => cases plainB
  | _ => cases plainA

theorem plainItem_ne_close {v : Value} (plain : PlainItem v) (k l : List Char) :
    (plainItem v).toList ++ k ≠ [')'] ++ l := by
  cases v with
  | string s =>
    rw [plainItem_string]
    intro same
    exact absurd (List.cons.inj same).1 (by decide)
  | int n => exact intText_append_ne rfl k l
  | _ => cases plain

theorem joinWith_map_toList {α : Type} (sep : String) (text : α → String) (a : α)
    (rest : List α) :
    (joinWith sep ((a :: rest).map text)).toList =
      (text a).toList ++ rest.flatMap fun b => sep.toList ++ (text b).toList := by
  rw [List.map_cons, joinWith_toList, List.flatMap_map]

theorem readable_items :
    Readable (fun items : List Value => ∀ item ∈ items, PlainItem item)
      (fun items => (joinWith "," (items.map plainItem)).toList ++ [')']) (fun _ => True) := by
  -- an empty list has no first member and is told by its end
  have closing : [')'] = ")".toList := rfl
  have members := readable_item.separated "," [")"] (by decide) (by decide)
    fun k follows => follows.ends (by decide)
  have some_items := members.close [')']
    (fun k => closing ▸ .append (List.mem_singleton_self ")") k) (fun _ => True)
  intro as bs k l plainA plainB _ _ same
  cases as with
  | nil =>
    cases bs with
    | nil => exact ⟨rfl, List.append_cancel_left same⟩
    | cons b bs =>
      simp only [joinWith_map_toList, List.append_assoc] at same
      exact absurd same.symm (plainItem_ne_close (plainB b List.mem_cons_self) _ _)
  | cons a as =>
    cases bs with
    | nil =>
      simp only [joinWith_map_toList, List.append_assoc] at same
      exact absurd same (plainItem_ne_close (plainA a List.mem_cons_self) _ _)
    | cons b bs =>
      simp only [joinWith_map_toList] at same
      obtain ⟨equal, after⟩ := @some_items (a, as) (b, bs) k l (List.forall_mem_cons.mp plainA)
        (List.forall_mem_cons.mp plainB) trivial trivial same
      obtain ⟨rfl, rfl⟩ := Prod.mk.inj equal
      exact ⟨rfl, after⟩

theorem readable_literal :
    Readable PlainValue (fun v => (plainLiteral v).toList) (Ends isNumeral) := by
  intro a b k l plainA plainB endsK endsL same
  cases a with
  | string s =>
    cases b with
    | string t =>
      simp only [plainLiteral_string] at same
      obtain ⟨rfl, after⟩ := readable_quoted '\'' plainA plainB trivial trivial same
      exact ⟨rfl, after⟩
    | int n =>
      simp only [plainLiteral_string, plainLiteral_int, List.append_assoc] at same
      exact absurd same.symm (intText_append_ne rfl _ _)
    | list items =>
      simp only [plainLiteral_string, plainLiteral_list, List.append_assoc] at same
      exact absurd (List.cons.inj same).1 (by decide)
    | _ => cases plainB
  | int m =>
    cases b with
    | string t =>
      simp only [plainLiteral_string, plainLiteral_int, List.append_assoc] at same
      exact absurd same (intText_append_ne rfl _ _)
    | int n =>
      simp only [plainLiteral_int] at same
      obtain ⟨rfl, after⟩ := readable_int trivial trivial endsK endsL same
      exact ⟨rfl, after⟩
    | list items =>
      simp only [plainLiteral_int, plainLiteral_list, List.append_assoc] at same
      exact absurd same (intText_append_ne rfl _ _)
    | _ => cases plainB
  | list items =>
    cases b with
    | string t =>
      simp only [plainLiteral_string, plainLiteral_list, List.append_assoc] at same
      exact absurd (List.cons.inj same).1 (by decide)
    | int n =>
      simp only [plainLiteral_int, plainLiteral_list, List.append_assoc] at same
      exact absurd same.symm (intText_append_ne rfl _ _)
    | list others =>
      simp only [plainLiteral_list] at same
      obtain ⟨rfl, after⟩ := readable_items.lead ['('] plainA plainB trivial trivial same
      exact ⟨rfl, after⟩
    | _ => cases plainB
  | _ => cases plainA

end Sql
end PagedQuery
