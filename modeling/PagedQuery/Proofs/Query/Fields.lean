import PagedQuery.Proofs.Query.Grammar
import PagedQuery.Proofs.Query.Reading

/-! What the readers of single fields make of a value, and which values they accept, kind by kind
of the grammar. -/
namespace PagedQuery

open Grammar

theorem Keyword.ofText?_iff (α : Type) [Keyword α] (s : String) :
    (∃ a, ofText? α s = some a) ↔ s ∈ (all : List α).map text := by
  rw [← Option.isSome_iff_exists, ofText?, List.find?_isSome, List.mem_map]
  simp

class Keyword.Lawful (α : Type) [Keyword α] : Prop where
  ofText?_text : ∀ a : α, Keyword.ofText? α (Keyword.text a) = some a

instance : Keyword.Lawful Operator := ⟨by intro a; cases a <;> rfl⟩

instance : Keyword.Lawful Connective := ⟨by intro a; cases a <;> rfl⟩

instance : Keyword.Lawful JoinKind := ⟨by intro a; cases a <;> rfl⟩

instance : Keyword.Lawful Direction := ⟨by intro a; cases a <;> rfl⟩

theorem Keyword.ofText?_eq_some_iff {α : Type} [Keyword α] [Keyword.Lawful α] (s : String) (a : α) :
    ofText? α s = some a ↔ s = text a := by
  constructor
  · intro known
    have same := List.find?_some known
    exact (eq_of_beq same).symm
  · rintro rfl
    exact Lawful.ofText?_text a

namespace Meaning

variable {α : Type}

def Spells [Keyword α] (v : Value) (a : α) : Prop := v = .string (Keyword.text a)

def IsString (v : Value) (s : String) : Prop := v = .string s

def Nullable (R : Value → α → Prop) (v : Value) : Option α → Prop
  | none => v = .null
  | some a => R v a

/-- What a field means that may be left out and may have several names, the first of which
counts. -/
def Given (fields : Fields) (names : List String) (default : α) (R : Value → α → Prop) (a : α) :
    Prop :=
  match names.findSome? fun name => Entries.find? name fields with
  | none => a = default
  | some v => R v a

theorem exists_nullable (R : Value → α → Prop) (v : Value) :
    (∃ a, Nullable R v a) ↔ v = .null ∨ ∃ a, R v a :=
  Option.exists

def OfPageSize (v : Value) (n : Int) : Prop := Grammar.Whole v n ∧ (n = -1 ∨ 1 ≤ n)

def OfPage (v : Value) (page : Number) : Prop := ∃ n, page = .whole n ∧ Grammar.Whole v n ∧ 1 ≤ n

end Meaning

open Meaning

def Checked.Valid {α : Type} (x : Checked α) : Prop := ∃ a, x = .valid a

namespace Checked

variable {α β : Type}

theorem list_valid_iff {R : α → β → Prop} {check : Nat → α → Checked β}
    (reads : ∀ i a b, check i a = .valid b ↔ R a b) (i : Nat) (items : List α) (bs : List β) :
    list check i items = .valid bs ↔ List.Forall₂ R items bs := by
  induction items generalizing i bs with
  | nil => cases bs <;> simp [list]
  | cons a rest ih =>
    rw [list, seq_valid_iff]
    simp only [map_valid_iff, reads, ih]
    constructor
    · rintro ⟨_, bs, ⟨b, head, rfl⟩, tail, rfl⟩
      exact .cons head tail
    · rintro (_ | ⟨head, tail⟩)
      exact ⟨_, _, ⟨_, head, rfl⟩, tail, rfl⟩

@[simp] theorem valid_valid (a : α) : Valid (valid a) := ⟨a, rfl⟩

@[simp] theorem fail_not_valid (path : List Step) (rule : Rule) :
    ¬ Valid (fail path rule : Checked α) := by
  rintro ⟨a, same⟩
  cases same

theorem map_valid (f : α → β) (x : Checked α) : Valid (f <$> x) ↔ Valid x := by
  cases x <;> simp [Valid, Functor.map, Checked.map]

theorem seq_valid (f : Checked (α → β)) (x : Checked α) :
    Valid (f <*> x) ↔ Valid f ∧ Valid x := by
  cases f <;> cases x <;> simp [Valid, Seq.seq, apply]

theorem list_valid {P : α → Prop} {check : Nat → α → Checked β}
    (decides : ∀ i a, Valid (check i a) ↔ P a) (i : Nat) (items : List α) :
    Valid (list check i items) ↔ ∀ a ∈ items, P a := by
  induction items generalizing i with
  | nil => simp [list]
  | cons a rest ih =>
    rw [list, seq_valid, map_valid, decides, ih, List.forall_mem_cons]

end Checked

namespace Field

open Checked

variable {α : Type} {P : Value → Prop} {R : Value → α → Prop} {read : List Step → Value → Checked α}

theorem find?_snd (fields : Fields) (names : List String) :
    (find? fields names).map Prod.snd =
      names.findSome? fun name => Entries.find? name fields := by
  induction names with
  | nil => rfl
  | cons name names ih =>
    simp only [find?, List.findSome?_cons] at ih ⊢
    cases Entries.find? name fields with
    | none => exact ih
    | some v => rfl

theorem required_eq_valid_iff (reads : ∀ path v a, read path v = .valid a ↔ R v a)
    (path : List Step) (fields : Fields) (name : String) (a : α) :
    required path fields name read = .valid a ↔
      ∃ v, Entries.find? name fields = some v ∧ R v a := by
  unfold required
  cases Entries.find? name fields with
  | none => simp
  | some v => simp [reads]

theorem orElse_eq_valid_iff (reads : ∀ path v a, read path v = .valid a ↔ R v a)
    (path : List Step) (fields : Fields) (names : List String) (default a : α) :
    orElse path fields names default read = .valid a ↔ Given fields names default R a := by
  unfold orElse Given
  rw [← find?_snd]
  cases find? fields names with
  | none => simp [eq_comm]
  | some found => simp [reads]

theorem required_valid (decides : ∀ path v, Valid (read path v) ↔ P v) (path : List Step)
    (fields : Fields) (name : String) :
    Valid (required path fields name read) ↔ Required fields name P := by
  unfold required Required
  cases Entries.find? name fields with
  | none => simp
  | some v => simp [decides]

theorem orElse_valid_iff (decides : ∀ path v, Valid (read path v) ↔ P v) (path : List Step)
    (fields : Fields) (names : List String) (default : α) :
    Valid (orElse path fields names default read) ↔ Optional fields names P := by
  unfold orElse Optional
  rw [← find?_snd]
  cases find? fields names with
  | none => simp
  | some found => simp [decides]

theorem string_eq_valid_iff (path : List Step) (v : Value) (s : String) :
    string path v = .valid s ↔ IsString v s := by
  cases v <;> simp [string, IsString]

theorem optionalString_eq_valid_iff (path : List Step) (v : Value) (s : Option String) :
    optionalString path v = .valid s ↔ Nullable IsString v s := by
  cases v <;> cases s <;>
    simp [optionalString, Nullable, Checked.map_valid_iff, string_eq_valid_iff, IsString]

theorem tableName_eq_valid_iff (path : List Step) (v : Value) (s : String) :
    tableName path v = .valid s ↔ IsString v s ∧ s ≠ "" := by
  simp only [tableName, Checked.andThen_valid_iff, string_eq_valid_iff]
  constructor
  · rintro ⟨_, same, out⟩
    split at out
    · cases out
    · cases out
      exact ⟨same, fun empty => absurd (String.isEmpty_iff.mpr empty) ‹_›⟩
  · rintro ⟨same, nonempty⟩
    exact ⟨s, same, by simp [nonempty]⟩

theorem keyword_eq_valid_iff [Keyword α] [Keyword.Lawful α] (path : List Step) (v : Value) (a : α) :
    keyword α path v = .valid a ↔ Spells v a := by
  cases v with
  | string s =>
    have word : Spells (.string s) a ↔ s = Keyword.text a := by simp [Spells]
    rw [word, ← Keyword.ofText?_eq_some_iff]
    simp only [keyword]
    cases Keyword.ofText? α s <;> simp
  | _ => simp [keyword, Spells]

theorem optionalKeyword_eq_valid_iff [Keyword α] [Keyword.Lawful α] (path : List Step) (v : Value)
    (a : Option α) : optionalKeyword α path v = .valid a ↔ Nullable Spells v a := by
  cases v <;> cases a <;>
    simp [optionalKeyword, Nullable, Checked.map_valid_iff, keyword_eq_valid_iff, Spells]

theorem string_valid (path : List Step) (v : Value) : Valid (string path v) ↔ IsText v :=
  exists_congr (string_eq_valid_iff path v)

theorem optionalString_valid (path : List Step) (v : Value) :
    Valid (optionalString path v) ↔ v = .null ∨ IsText v :=
  (exists_congr (optionalString_eq_valid_iff path v)).trans (exists_nullable IsString v)

theorem tableName_valid (path : List Step) (v : Value) :
    Valid (tableName path v) ↔ IsName v :=
  exists_congr (tableName_eq_valid_iff path v)

theorem keyword_valid (α : Type) [Keyword α] (path : List Step) (v : Value) :
    Valid (keyword α path v) ↔ OneOf ((Keyword.all : List α).map Keyword.text) v := by
  cases v with
  | string s =>
    have word : OneOf ((Keyword.all : List α).map Keyword.text) (.string s) ↔
        s ∈ (Keyword.all : List α).map Keyword.text := by
      simp [OneOf]
    rw [word, ← Keyword.ofText?_iff]
    simp only [keyword]
    cases Keyword.ofText? α s <;> simp
  | _ => simp [keyword, OneOf]

theorem optionalKeyword_valid (α : Type) [Keyword α] (path : List Step) (v : Value) :
    Valid (optionalKeyword α path v) ↔
      v = .null ∨ OneOf ((Keyword.all : List α).map Keyword.text) v := by
  cases v <;> simp [optionalKeyword, map_valid, keyword_valid]

theorem whole_valid_iff (path : List Step) (v : Value) (n : Int) :
    whole path v = .valid n ↔ Whole v n := by
  cases v with
  | int m =>
    constructor
    · rintro ⟨⟩
      exact .int _
    · rintro ⟨⟩
      rfl
  | bool b =>
    constructor
    · rintro ⟨⟩
      exact .bool b
    · rintro ⟨⟩
      rfl
  | real x =>
    simp only [whole, wholeOfReal]
    constructor
    · intro accepted
      split at accepted
      · cases accepted
      · split at accepted
        · cases accepted
        · rename_i m integral
          split at accepted
          · rename_i inside
            cases accepted
            exact .real integral inside
          · cases accepted
    · rintro (_ | _ | ⟨integral, inside⟩)
      have finite : x.isFinite = true := by
        cases x <;> first | rfl | cases integral
      have bound : -realLimit < n ∧ n < realLimit := inside
      simp only [finite, integral, bound, Bool.not_true, Bool.false_eq_true, if_false, and_self,
        if_true]
  | string s =>
    simp only [whole, wholeOfText]
    constructor
    · intro accepted
      split at accepted
      · rename_i m numeral
        cases accepted
        exact .text numeral
      · cases accepted
      · cases accepted
    · rintro (_ | _ | _ | numeral)
      rw [numeral]
  | _ =>
    constructor
    · rintro ⟨⟩
    · rintro ⟨⟩

theorem pageSize_eq_valid_iff (path : List Step) (v : Value) (n : Int) :
    pageSize path v = .valid n ↔ OfPageSize v n := by
  simp only [pageSize, Checked.andThen_valid_iff, whole_valid_iff, OfPageSize]
  constructor
  · rintro ⟨m, whole, out⟩
    split at out
    · cases out
      exact ⟨whole, ‹_›⟩
    · cases out
  · rintro ⟨whole, allowed⟩
    exact ⟨n, whole, if_pos allowed⟩

theorem page_eq_valid_iff (path : List Step) (v : Value) (n : Number) :
    page path v = .valid n ↔ OfPage v n := by
  simp only [page, Checked.andThen_valid_iff, whole_valid_iff, OfPage]
  constructor
  · rintro ⟨m, whole, out⟩
    split at out
    · cases out
      exact ⟨m, rfl, whole, ‹_›⟩
    · cases out
  · rintro ⟨m, rfl, whole, positive⟩
    exact ⟨m, whole, if_pos positive⟩

theorem page_valid_iff (path : List Step) (v : Value) : Valid (page path v) ↔ IsPage v := by
  refine (exists_congr (page_eq_valid_iff path v)).trans ?_
  simp [OfPage, IsPage]

theorem pageSize_valid_iff (path : List Step) (v : Value) :
    Valid (pageSize path v) ↔ IsPageSize v :=
  exists_congr (pageSize_eq_valid_iff path v)

end Field

open Checked

theorem Description.stringEntries_eq_valid_iff (path : List Step) (v : Value)
    (pairs : List (String × String)) : stringEntries path v = .valid pairs ↔
      v = .object (pairs.map fun p => (p.1, .string p.2)) := by
  cases v with
  | object entries =>
    have reads : ∀ (i : Nat) (p : String × Value) (pair : String × String),
        ((Field.string (path ++ [.name p.1]) p.2).map fun s => (p.1, s)) = .valid pair ↔
          p = (pair.1, .string pair.2) := by
      rintro _ ⟨name, v⟩ ⟨name', s⟩
      have named := Checked.map_valid_iff (fun s => (name, s))
        (Field.string (path ++ [.name name]) v) (name', s)
      refine named.trans ?_
      simp only [Field.string_eq_valid_iff, IsString, Prod.mk.injEq]
      constructor
      · rintro ⟨_, same, rfl, rfl⟩
        exact ⟨rfl, same⟩
      · rintro ⟨rfl, same⟩
        exact ⟨s, same, rfl, rfl⟩
    rw [stringEntries, Checked.list_valid_iff reads, Value.object.injEq,
      ← List.forall₂_eq_eq_eq, List.forall₂_map_right_iff]
  | _ => simp [stringEntries]

theorem Description.stringEntries_valid (path : List Step) (v : Value) :
    Valid (stringEntries path v) ↔ IsPairing v := by
  cases v with
  | object entries =>
    rw [stringEntries, list_valid (P := fun p => IsText p.2) (fun _ p => ?_)]
    · simp [IsPairing]
    · exact (map_valid _ _).trans (Field.string_valid _ _)
  | _ => simp [stringEntries, IsPairing]

theorem Join.read_valid (path : List Step) (fields : Fields) :
    Valid (Join.read path (.object fields)) ↔ JoinObject fields := by
  simp only [Join.read, Description.fieldsOf, andThen, seq_valid, map_valid,
    Field.required_valid Field.tableName_valid,
    Field.required_valid Description.stringEntries_valid,
    Field.orElse_valid_iff (Field.keyword_valid Operator),
    Field.orElse_valid_iff (Field.keyword_valid JoinKind)]
  constructor
  · rintro ⟨⟨⟨table, on⟩, operator⟩, kind⟩
    exact ⟨table, on, operator, kind⟩
  · rintro ⟨table, on, operator, kind⟩
    exact ⟨⟨⟨table, on⟩, operator⟩, kind⟩

theorem Query.assemble_valid (path : List Step) (fields : Fields) (filters : List Filter)
    (order : Option Order) (joins : List Join) :
    Valid (assemble path fields (.valid filters) (.valid order) (.valid joins)) ↔
      Remaining fields := by
  simp only [assemble, seq_valid, map_valid, valid_valid, and_true,
    Field.required_valid Field.tableName_valid,
    Field.orElse_valid_iff Field.string_valid,
    Field.orElse_valid_iff (Field.keyword_valid Connective),
    Field.orElse_valid_iff (Field.keyword_valid Operator),
    Field.orElse_valid_iff Field.pageSize_valid_iff,
    Field.orElse_valid_iff Field.page_valid_iff,
    Field.orElse_valid_iff Field.optionalString_valid]
  constructor
  · rintro ⟨⟨⟨⟨⟨⟨table, tablePrefix⟩, connective⟩, operator⟩, pageSize⟩, page⟩, mode⟩
    exact ⟨table, tablePrefix, connective, operator, pageSize, page, mode⟩
  · rintro ⟨table, tablePrefix, connective, operator, pageSize, page, mode⟩
    exact ⟨⟨⟨⟨⟨⟨table, tablePrefix⟩, connective⟩, operator⟩, pageSize⟩, page⟩, mode⟩

end PagedQuery
