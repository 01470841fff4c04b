import PagedQuery.Proofs.Number.Numerals
import PagedQuery.Proofs.Query.Wire
import PagedQuery.Proofs.Sql.Filtering

/-! How the values of an accepted query are written in the WHERE clause: as quoted strings, as
numerals, or as lists of these. The three forms are told apart by their text alone, and the text of
a value of any other kind has none of them. Only whole numbers with too many digits are not
written at all. -/
namespace PagedQuery

open Decimal

namespace Sql

inductive NumberText : Value → String → Prop
  | int (n : Int) (numeral : IsNumeral (Number.intText n).toList) :
    NumberText (.int n) (Number.intText n)
  | real {x : Binary64} (finite : x.isFinite = true) (numeral : IsNumeral x.text.toList) :
    NumberText (.real x) x.text

inductive ItemText : Value → String → Prop
  | string (s : String) : ItemText (.string s) ("\"" ++ s ++ "\"")
  | number {v : Value} {text : String} (h : NumberText v text) : ItemText v text

inductive LiteralText : Value → String → Prop
  | string (s : String) : LiteralText (.string s) ("'" ++ s ++ "'")
  | number {v : Value} {text : String} (h : NumberText v text) : LiteralText v text
  | list {items : List Value} {texts : List String} (each : List.Forall₂ ItemText items texts) :
    LiteralText (.list items) ("(" ++ joinWith "," texts ++ ")")

inductive Form
  | quoted
  | numeral
  | list
deriving DecidableEq, Repr

def Form.Fits : Form → String → Prop
  | quoted, text => ∃ s, text = "'" ++ s ++ "'"
  | numeral, text => IsNumeral text.toList
  | list, text => ∃ texts, text = "(" ++ joinWith "," texts ++ ")" ∧
      ∀ item ∈ texts, (∃ s, item = "\"" ++ s ++ "\"") ∨ IsNumeral item.toList

theorem numberText_of_finite {x : Binary64} (finite : x.isFinite = true) :
    NumberText (.real x) x.text := by
  refine .real finite ?_
  rw [Binary64.text, String.toList_ofList]
  exact Layout.plain.write_isNumeral finite

theorem NumberText.isNumeral {v : Value} {text : String} (h : NumberText v text) :
    IsNumeral text.toList := by
  cases h with
  | int n numeral => exact numeral
  | real finite numeral => exact numeral

theorem ItemText.shape {v : Value} {text : String} (h : ItemText v text) :
    (∃ s, text = "\"" ++ s ++ "\"") ∨ IsNumeral text.toList := by
  cases h with
  | string s => exact .inl ⟨s, rfl⟩
  | number h => exact .inr h.isNumeral

theorem LiteralText.fits {v : Value} {text : String} (h : LiteralText v text) :
    ∃ form : Form, form.Fits text := by
  cases h with
  | string s => exact ⟨.quoted, s, rfl⟩
  | number h => exact ⟨.numeral, h.isNumeral⟩
  | list each =>
    refine ⟨.list, _, rfl, ?_⟩
    induction each with
    | nil => simp
    | cons item _ ih => exact List.forall_mem_cons.mpr ⟨item.shape, ih⟩

/-- A numeral holds neither quotes nor brackets, nor any letter but one. -/
theorem not_isNumeral_of_mem {cs : List Char} {c : Char} (member : c ∈ cs)
    (other : isMark c = false) : ¬ IsNumeral cs := by
  intro numeral
  cases other.symm.trans (numeral.marks c member)

def Form.ofOpening (c : Char) : Form :=
  if c = '\'' then .quoted else if c = '(' then .list else .numeral

theorem Form.Fits.opening {form : Form} {text : String} (h : form.Fits text) :
    ∃ c rest, text.toList = c :: rest ∧ Form.ofOpening c = form := by
  cases form with
  | quoted =>
    obtain ⟨s, rfl⟩ := h
    exact ⟨'\'', (s ++ "'").toList, by simp, rfl⟩
  | numeral =>
    have numeral : IsNumeral text.toList := h
    obtain ⟨c, rest, chars⟩ := List.exists_cons_of_ne_nil numeral.ne_nil
    refine ⟨c, rest, chars, ?_⟩
    have mark := numeral.marks c (chars ▸ List.mem_cons_self)
    have notQuote : c ≠ '\'' := by
      rintro rfl
      cases mark
    have notBracket : c ≠ '(' := by
      rintro rfl
      cases mark
    rw [ofOpening, if_neg notQuote, if_neg notBracket]
  | list =>
    obtain ⟨texts, rfl, _⟩ := h
    exact ⟨'(', (joinWith "," texts ++ ")").toList, by simp, rfl⟩

theorem Form.Fits.unique {first second : Form} {text : String} (h : first.Fits text)
    (h' : second.Fits text) : first = second := by
  obtain ⟨c, rest, chars, rfl⟩ := h.opening
  obtain ⟨d, more, same, rfl⟩ := h'.opening
  rw [(List.cons.inj (chars.symm.trans same)).1]

section Writing

variable [Runtime]

/-- The text of a value that no column is compared with on its own: of null, a truth value, a
number that is not finite, a list or an object. -/
def Foreign (text : String) : Prop := ∃ v, ¬ Grammar.Scalar v ∧ v.text = .ok text

theorem listItem_itemText {v : Value} (scalar : Grammar.Scalar v) {text : String}
    (written : listItem v = .ok text) : ItemText v text := by
  cases scalar with
  | string s =>
    cases written
    exact .string s
  | int n =>
    obtain ⟨-, rfl⟩ := Number.wholeText_ok_iff.mp written
    exact .number (.int n (Number.intText_isNumeral n))
  | real finite =>
    cases written
    exact .number (numberText_of_finite finite)

theorem items_itemText {items : List Value} (scalars : ∀ v ∈ items, Grammar.Scalar v)
    {texts : List String} (written : items.mapM listItem = .ok texts) :
    List.Forall₂ ItemText items texts := by
  have each := Except.mapM_ok_iff.mp written
  clear written
  induction each with
  | nil => exact .nil
  | cons item _ ih =>
    obtain ⟨scalar, rest⟩ := List.forall_mem_cons.mp scalars
    exact .cons (listItem_itemText scalar item) (ih rest)

theorem literal_literalText {v : Value} (comparand : Grammar.Comparand v) {text : String}
    (written : literal v = .ok text) : LiteralText v text := by
  cases comparand with
  | scalar scalar =>
    cases scalar with
    | string s =>
      cases written
      exact .string s
    | int n =>
      obtain ⟨-, rfl⟩ := Number.wholeText_ok_iff.mp written
      exact .number (.int n (Number.intText_isNumeral n))
    | real finite =>
      cases written
      exact .number (numberText_of_finite finite)
  | list scalars =>
    rw [literal_list] at written
    obtain ⟨texts, members, rfl⟩ := Except.map_ok_iff.mp written
    exact .list (items_itemText scalars members)

/-- The text of a value of another kind opens with no mark of a literal, and has a character that
no numeral has. -/
theorem Foreign.opening {text : String} (h : Foreign text) :
    ∃ c rest, text.toList = c :: rest ∧ Form.ofOpening c = .numeral ∧ c ≠ '"' ∧
      ∃ d ∈ c :: rest, isMark d = false := by
  obtain ⟨v, notScalar, written⟩ := h
  cases v with
  | null =>
    cases written
    exact ⟨'N', ['o', 'n', 'e'], rfl, rfl, by decide, 'N', by decide, rfl⟩
  | bool b =>
    cases written
    cases b with
    | false => exact ⟨'F', ['a', 'l', 's', 'e'], rfl, rfl, by decide, 'F', by decide, rfl⟩
    | true => exact ⟨'T', ['r', 'u', 'e'], rfl, rfl, by decide, 'T', by decide, rfl⟩
  | int n => exact absurd (.int n) notScalar
  | real x =>
    cases written
    cases x with
    | nan => exact ⟨'n', ['a', 'n'], rfl, rfl, by decide, 'n', by decide, rfl⟩
    | infinite negative =>
      cases negative with
      | false => exact ⟨'i', ['n', 'f'], rfl, rfl, by decide, 'i', by decide, rfl⟩
      | true => exact ⟨'-', ['i', 'n', 'f'], rfl, rfl, by decide, 'i', by decide, rfl⟩
    | finite negative m e => exact absurd (.real rfl) notScalar
  | string s => exact absurd (.string s) notScalar
  | list items =>
    obtain ⟨texts, rfl⟩ := Value.text_list_ok written
    simp only [String.toList_append]
    exact ⟨'[', _, rfl, rfl, by decide, '[', List.mem_cons_self, rfl⟩
  | object entries =>
    obtain ⟨texts, rfl⟩ := Value.text_object_ok written
    simp only [String.toList_append]
    exact ⟨'\x7b', _, rfl, rfl, by decide, '\x7b', List.mem_cons_self, rfl⟩

theorem Foreign.not_fits {text : String} (h : Foreign text) (form : Form) : ¬ form.Fits text := by
  intro fits
  obtain ⟨c, rest, chars, opens, _, d, member, other⟩ := h.opening
  obtain ⟨c', rest', chars', rfl⟩ := fits.opening
  obtain ⟨rfl, rfl⟩ := List.cons.inj (chars.symm.trans chars')
  rw [opens] at fits
  exact not_isNumeral_of_mem (chars ▸ member) other fits

theorem LiteralText.not_foreign {v : Value} {text : String} (h : LiteralText v text) :
    ¬ Foreign text := by
  obtain ⟨form, fits⟩ := h.fits
  exact fun foreign => foreign.not_fits form fits

theorem ItemText.not_foreign {v : Value} {text : String} (h : ItemText v text) :
    ¬ Foreign text := by
  intro foreign
  obtain ⟨c, rest, chars, _, notQuote, d, member, other⟩ := foreign.opening
  rcases h.shape with ⟨s, rfl⟩ | numeral
  · simp only [String.toList_append] at chars
    exact notQuote (List.cons.inj chars).1.symm
  · exact not_isNumeral_of_mem (chars ▸ member) other numeral

end Writing

end Sql

namespace Query

open Sql

theorem predicates_of_objects {objects : List Fields} {q : Query}
    (each : List.Forall₂ Meaning.OfFilter objects q.filters) :
    q.predicates.map (fun p => (p.column, p.value)) =
      objects.flatMap (Entries.erase "equalityOperator") := by
  have columns : q.predicates.map (fun p => (p.column, p.value)) =
      q.filters.flatMap Filter.columns := by
    simp [predicates, List.map_flatMap, Function.comp_def]
  rw [columns]
  generalize q.filters = filters at each
  induction each with
  | nil => rfl
  | cons head _ ih => rw [List.flatMap_cons, List.flatMap_cons, ih, head.columns]

theorem comparand_of_mem {q : Query} (normal : Normal q) {p : Predicate}
    (member : p ∈ q.predicates) : Grammar.Comparand p.value := by
  obtain ⟨f, filter, inside⟩ := List.mem_flatMap.mp member
  obtain ⟨entry, column, rfl⟩ := List.mem_map.mp inside
  exact (normal.columns f filter entry column).2

inductive Compares (n : Int) : Value → Prop
  | alone : Compares n (.int n)
  | listed {items : List Value} (member : .int n ∈ items) : Compares n (.list items)

section Literals

variable [Runtime] {q : Query} {p : Predicate} {text : String}

/-- A comparison as it stands in the clause, with a literal for its value: a quoted string, a
numeral or a list of these, one of the three by its text alone, and no text of a value of another
kind. -/
def WritesPredicate (q : Query) (p : Predicate) (text : String) : Prop :=
  ∃ value, text = q.columnText p.column ++ " " ++ Keyword.text p.operator ++ " " ++ value ∧
    LiteralText p.value value ∧ (∃! form : Form, form.Fits value) ∧ ¬ Foreign value ∧
    ∀ items, p.value = .list items → ∃ texts, value = "(" ++ joinWith "," texts ++ ")" ∧
      List.Forall₂ (fun item text => ItemText item text ∧ ¬ Foreign text) items texts

theorem predicateText_writes (comparand : Grammar.Comparand p.value)
    (done : q.predicateText p = .ok text) : q.WritesPredicate p text := by
  rw [predicateText_eq] at done
  obtain ⟨value, written, rfl⟩ := Except.map_ok_iff.mp done
  have literal := literal_literalText comparand written
  refine ⟨value, rfl, literal, ?_, literal.not_foreign, ?_⟩
  · obtain ⟨form, fits⟩ := literal.fits
    exact ⟨form, fits, fun other fits' => Form.Fits.unique fits' fits⟩
  · intro items same
    rw [same] at literal
    cases literal with
    | number h => cases h
    | list each => exact ⟨_, rfl, each.imp fun _ _ item => ⟨item, item.not_foreign⟩⟩

theorem scalar_hasText {v : Value} (scalar : Grammar.Scalar v) :
    v.HasText ↔ ∀ n, v = .int n → Number.Short n := by
  cases scalar with
  | string s => exact ⟨fun _ => nofun, fun _ => .string s⟩
  | real finite => exact ⟨fun _ => nofun, fun _ => .real _⟩
  | int n =>
    constructor
    · rintro ⟨⟩ _ ⟨⟩
      assumption
    · exact fun short => .int (short n rfl)

theorem comparand_hasLiteral {v : Value} (comparand : Grammar.Comparand v) :
    v.HasLiteral ↔ ∀ n, Compares n v → Number.Short n := by
  cases comparand with
  | scalar scalar =>
    have alone : v.HasLiteral ↔ v.HasText := by
      cases scalar <;> rfl
    rw [alone, scalar_hasText scalar]
    constructor
    · rintro short n (_ | _)
      · exact short n rfl
      · cases scalar
    · rintro short n rfl
      exact short n .alone
  | list scalars =>
    constructor
    · rintro each n (_ | member)
      exact (scalar_hasText (scalars _ member)).mp (each _ member) n rfl
    · intro short item member
      refine (scalar_hasText (scalars item member)).mpr ?_
      rintro n rfl
      exact short n (.listed member)

theorem hasLiteral_of_hasText {v : Value} (written : v.HasText) : v.HasLiteral := by
  cases v with
  | list items =>
    intro item member
    exact written.of_occurs (.item member .here)
  | _ => exact written

theorem predicate_occurs {v : Value} (accepted : normalize v = .ok q) (member : p ∈ q.predicates) :
    Value.Occurs p.value v := by
  obtain ⟨fields, rfl, means⟩ := (normalize_ok_iff v q).mp accepted
  obtain ⟨objects, members, each⟩ := means.filters
  have listed : (p.column, p.value) ∈ objects.flatMap (Entries.erase "equalityOperator") :=
    predicates_of_objects each ▸ List.mem_map_of_mem member
  obtain ⟨object, inside, entry⟩ := List.mem_flatMap.mp listed
  have within := members.occurs inside
  rw [valueAt] at within
  cases found : Entries.find? "columns" fields with
  | none =>
    rw [found] at within
    cases within
  | some w =>
    rw [found] at within
    have column : Value.Occurs p.value (.object object) :=
      .entry (List.mem_of_mem_filter entry) .here
    exact .entry (Entries.mem_of_find? found) (column.trans within)

end Literals

/-- The comparisons of an accepted query are the columns of its filter objects in order, but for
the operators. If the clause is written, then each of them with a literal for its value; and it is
written unless a whole number has too many digits. -/
theorem values_written_as_literals [Runtime] {v : Value} {q : Query}
    (accepted : normalize v = .ok q) :
    (∃ fields objects, v = .object fields ∧
      Meaning.Members (valueAt fields "columns") objects ∧
      q.predicates.map (fun p => (p.column, p.value)) =
        objects.flatMap (Entries.erase "equalityOperator")) ∧
    (∀ filter, q.whereClause = .ok filter → ∃ texts,
      List.Forall₂ q.WritesPredicate q.predicates texts ∧
      filter = if q.predicates = [] then "" else
        "WHERE " ++ joinWith q.connective.between texts) ∧
    ((∃ filter, q.whereClause = .ok filter) ↔
      ∀ p ∈ q.predicates, ∀ n, Compares n p.value → Number.Short n) := by
  have normal := normalize_normal accepted
  refine ⟨?_, ?_, ?_⟩
  · obtain ⟨fields, rfl, means⟩ := (normalize_ok_iff v q).mp accepted
    obtain ⟨objects, members, each⟩ := means.filters
    exact ⟨fields, objects, rfl, members, predicates_of_objects each⟩
  · intro filter written
    by_cases compares : q.predicates = []
    · cases (whereClause_absent compares).symm.trans written
      refine ⟨[], ?_, (if_pos compares).symm⟩
      rw [compares]
      exact .nil
    · rw [whereClause_present compares, conditions] at written
      obtain ⟨_, joined, rfl⟩ := Except.map_ok_iff.mp written
      obtain ⟨texts, each, rfl⟩ := Except.map_ok_iff.mp joined
      refine ⟨texts, ?_, (if_neg compares).symm⟩
      have related := (List.forall₂_and_left _ _).mpr
        ⟨fun p member => comparand_of_mem normal member, Except.mapM_ok_iff.mp each⟩
      exact related.imp fun p text done => predicateText_writes done.1 done.2
  · rw [whereClause_exists_iff]
    exact forall₂_congr fun p member => comparand_hasLiteral (comparand_of_mem normal member)

def oddTracks : Value := .object [
  ("table", .string "tracks"),
  ("columns", .object [
    ("name", .string "None"),
    ("equalityOperator", .string "IN"),
    ("rating", .real (.finite false 5066549580791808 (-50))),
    ("id", .list [.int (-1), .string "nan"])])]

open Runtime.Usual in
theorem odd_tracks_written :
    ∃ q texts, normalize oddTracks = .ok q ∧
      q.whereClause = .ok "WHERE name IN 'None' AND rating IN 4.5 AND id IN (-1,\"nan\")" ∧
      List.Forall₂ q.WritesPredicate q.predicates texts ∧
      "WHERE name IN 'None' AND rating IN 4.5 AND id IN (-1,\"nan\")" =
        "WHERE " ++ joinWith " AND " texts := by
  obtain ⟨q, accepted, written⟩ : ∃ q, normalize oddTracks = .ok q ∧
      q.whereClause = .ok "WHERE name IN 'None' AND rating IN 4.5 AND id IN (-1,\"nan\")" :=
    ⟨_, rfl, by decide +kernel⟩
  obtain ⟨-, clause, -⟩ := values_written_as_literals accepted
  obtain ⟨texts, each, same⟩ := clause _ written
  cases accepted
  exact ⟨_, texts, rfl, written, each, same⟩

end Query
end PagedQuery
