import PagedQuery.Proofs.Query.Acceptance

/-! What an object means: the query that it stands for, told apart from how it is read. Reading
gives a query exactly if that is what the object means, so nothing in it is lost or moved. -/
namespace PagedQuery

namespace Meaning

inductive Objects : Value → List Fields → Prop
  | single (fields : Fields) : Objects (.object fields) [fields]
  | list (objects : List Fields) : Objects (.list (objects.map .object)) objects

inductive Members (v : Value) : List Fields → Prop
  | nothing (empty : v.isEmpty = true) : Members v []
  | some {objects : List Fields} (present : v.isEmpty = false) (h : Objects v objects) :
    Members v objects

theorem Members.occurs {v : Value} {objects : List Fields} (members : Members v objects)
    {fields : Fields} (member : fields ∈ objects) : Value.Occurs (.object fields) v := by
  cases members with
  | nothing => cases member
  | some _ h =>
    cases h with
    | single =>
      cases List.mem_singleton.mp member
      exact .here
    | list => exact .item (List.mem_map_of_mem member) .here

structure OfJoin (fields : Fields) (j : Join) : Prop where
  table : Entries.find? "table" fields = some (.string j.table)
  named : j.table ≠ ""
  on : Entries.find? "on" fields = some (.object (j.on.map fun p => (p.1, .string p.2)))
  operator : Given fields ["equalityOperator", "equality_operator"] .equal Spells j.operator
  kind : Given fields ["type"] .left Spells j.kind

structure OfFilter (fields : Fields) (f : Filter) : Prop where
  columns : f.columns = Entries.erase "equalityOperator" fields
  comparands : ∀ p ∈ f.columns, Grammar.Comparand p.2
  operator : Given fields ["equalityOperator"] none (Nullable Spells) f.operator

def OfTerm (entry : String × Value) (t : SortTerm) : Prop :=
  t.column = entry.1 ∧ ∃ s, entry.2 = .string s ∧ Text.upper s = Keyword.text t.direction

inductive OfOrder : Value → Option Order → Prop
  | absent : OfOrder .null none
  | random : OfOrder (.string "rand") (some .random)
  | nothing {v : Value} {objects : List Fields} (h : Objects v objects)
    (empty : objects.flatten = []) : OfOrder v none
  | terms {v : Value} {objects : List Fields} {terms : List SortTerm} (h : Objects v objects)
    (nonempty : objects.flatten ≠ []) (each : List.Forall₂ OfTerm objects.flatten terms) :
    OfOrder v (some (.by terms))

structure OfQuery (fields : Fields) (q : Query) : Prop where
  table : Entries.find? "table" fields = some (.string q.table)
  named : q.table ≠ ""
  tablePrefix : Given fields ["prefix"] "server_" IsString q.tablePrefix
  joins : ∃ objects, Members (Query.valueAt fields "join") objects ∧
    List.Forall₂ OfJoin objects q.joins
  filters : ∃ objects, Members (Query.valueAt fields "columns") objects ∧
    List.Forall₂ OfFilter objects q.filters
  connective : Given fields ["columnCompare", "column_compare"] .and Spells q.connective
  operator : Given fields ["equalityOperator", "equality_operator"] .equal Spells q.operator
  order : OfOrder (Query.orderValue fields) q.order
  pageSize : Given fields ["itemsPerPage", "items_per_page"] 100 OfPageSize q.pageSize
  page : Given fields ["page"] (.whole 1) OfPage q.page
  mode : Given fields ["mode"] none (Nullable IsString) q.mode

end Meaning

open Meaning

theorem Join.read_eq_valid_iff (path : List Step) (fields : Fields) (j : Join) :
    Join.read path (.object fields) = .valid j ↔ OfJoin fields j := by
  simp only [Join.read, Description.fieldsOf, Checked.andThen, Checked.seq_valid_iff,
    Checked.map_valid_iff, Field.required_eq_valid_iff Field.tableName_eq_valid_iff,
    Field.required_eq_valid_iff Description.stringEntries_eq_valid_iff,
    Field.orElse_eq_valid_iff Field.keyword_eq_valid_iff]
  constructor
  · rintro ⟨_, _, ⟨_, _, ⟨_, _, ⟨_, ⟨_, table, rfl, named⟩, rfl⟩, ⟨_, on, rfl⟩, rfl⟩, operator,
      rfl⟩, kind, rfl⟩
    exact ⟨table, named, on, operator, kind⟩
  · rintro ⟨table, named, on, operator, kind⟩
    exact ⟨_, _, ⟨_, _, ⟨_, _, ⟨_, ⟨_, table, rfl, named⟩, rfl⟩, ⟨_, on, rfl⟩, rfl⟩, operator, rfl⟩,
      kind, rfl⟩

namespace Query

theorem objects_of_forall₂ {α : Type} {R : Fields → α → Prop} (items : List Value) (as : List α) :
    List.Forall₂ (fun v a => ∃ fields, v = .object fields ∧ R fields a) items as ↔
      ∃ objects : List Fields, items = objects.map .object ∧ List.Forall₂ R objects as := by
  constructor
  · intro each
    induction each with
    | nil => exact ⟨[], rfl, .nil⟩
    | cons head _ ih =>
      obtain ⟨fields, rfl, related⟩ := head
      obtain ⟨objects, rfl, rest⟩ := ih
      exact ⟨fields :: objects, rfl, .cons related rest⟩
  · rintro ⟨objects, rfl, each⟩
    rw [List.forall₂_map_left_iff]
    exact each.imp fun fields _ related => ⟨fields, rfl, related⟩

theorem membersOf_objects_iff (message : String) (v : Value) (objects : List Fields) :
    membersOf message v = .ok (objects.map .object) ↔ Members v objects := by
  cases empty : v.isEmpty with
  | true =>
    simp only [membersOf, empty, if_true]
    constructor
    · intro same
      cases objects with
      | nil => exact .nothing empty
      | cons => cases same
    · rintro (_ | ⟨present, _⟩)
      · rfl
      · cases empty.symm.trans present
  | false =>
    simp only [membersOf, empty, Bool.false_eq_true, if_false]
    constructor
    · intro same
      cases v with
      | object fields =>
        rcases objects with _ | ⟨_, _ | ⟨_, _⟩⟩ <;> cases same
        exact .some empty (.single fields)
      | list items =>
        cases same
        exact .some empty (.list objects)
      | _ => cases same
    · rintro (present | ⟨_, _ | _⟩)
      · cases empty.symm.trans present
      · rfl
      · rfl

theorem members_ok_iff {α : Type} {R : Fields → α → Prop} {read : Value → Except Failure α}
    (reads : ∀ v a, read v = .ok a ↔ ∃ fields, v = .object fields ∧ R fields a) (message : String)
    (v : Value) (as : List α) :
    (membersOf message v >>= fun items => items.mapM read) = .ok as ↔
      ∃ objects, Members v objects ∧ List.Forall₂ R objects as := by
  simp only [Except.bind_ok_iff, Except.mapM_ok_iff, reads, objects_of_forall₂]
  constructor
  · rintro ⟨_, members, objects, rfl, each⟩
    exact ⟨objects, (membersOf_objects_iff message v objects).mp members, each⟩
  · rintro ⟨objects, members, each⟩
    exact ⟨_, (membersOf_objects_iff message v objects).mpr members, objects, rfl, each⟩

variable [Runtime]

theorem joinOf_ok_iff (v : Value) (j : Join) :
    joinOf v = .ok j ↔ ∃ fields, v = .object fields ∧ OfJoin fields j := by
  cases v with
  | object fields =>
    suffices joinOf (.object fields) = .ok j ↔ OfJoin fields j by simpa
    rw [← Join.read_eq_valid_iff []]
    constructor
    · intro read
      simp only [joinOf] at read
      split at read
      · cases read
      · cases read
      · split at read
        · cases read
          assumption
        · cases read
      · cases read
    · intro read
      have means := (Join.read_eq_valid_iff _ _ _).mp read
      simp only [joinOf, means.table, means.on, read]
  | _ => simp [joinOf]

theorem checkColumns_ok_iff (columns : Fields) :
    (columns.forM fun (column, v) => checkColumnValue column v) = .ok () ↔
      ∀ p ∈ columns, Grammar.Comparand p.2 := by
  have decides : Decides (.object columns) (columns.forM fun p => checkColumnValue p.1 p.2)
      (∀ p ∈ columns, Grammar.Comparand p.2) :=
    .forM fun p member => (checkColumnValue_decides p.1 p.2).entry member
  constructor
  · intro checked
    rw [checked] at decides
    exact decides
  · intro comparands
    obtain ⟨⟨⟩, checked⟩ := decides.iff.mpr comparands
    exact checked

theorem filterOf_ok_iff (v : Value) (f : Filter) :
    filterOf v = .ok f ↔ ∃ fields, v = .object fields ∧ OfFilter fields f := by
  cases v with
  | object fields =>
    suffices filterOf (.object fields) = .ok f ↔ OfFilter fields f by simpa
    have operator : ∀ operator, Field.optionalKeyword Operator [.name "equality_operator"]
        ((Entries.find? operatorName fields).getD .null) = .valid operator ↔
        Given fields ["equalityOperator"] none (Nullable Spells) operator := by
      intro operator
      rw [Field.optionalKeyword_eq_valid_iff]
      simp only [Given, List.findSome?_cons, List.findSome?_nil, operatorName]
      cases Entries.find? "equalityOperator" fields with
      | none => cases operator <;> simp [Nullable, Spells]
      | some v => simp
    simp only [filterOf, Except.bind_ok_iff]
    constructor
    · rintro ⟨⟨⟩, checked, read⟩
      split at read
      · cases read
        exact ⟨rfl, (checkColumns_ok_iff _).mp checked, (operator _).mp ‹_›⟩
      · cases read
    · obtain ⟨columns, chosen⟩ := f
      rintro ⟨rfl, comparands, given⟩
      refine ⟨(), (checkColumns_ok_iff _).mpr comparands, ?_⟩
      simp only [(operator chosen).mpr given]
      rfl
  | _ => simp [filterOf]

theorem termOf_ok_iff (entry : String × Value) (t : SortTerm) :
    termOf entry = .ok t ↔ OfTerm entry t := by
  obtain ⟨column, v⟩ := entry
  obtain ⟨name, direction⟩ := t
  simp only [termOf, OfTerm]
  constructor
  · intro read
    split at read
    · cases read
    · rename_i word written
      split at read
      · rename_i known
        cases read
        -- a direction is read from the text of any value, but only strings spell one
        obtain ⟨_, rfl, _⟩ := (direction_iff written).mp ⟨_, known⟩
        cases written
        exact ⟨rfl, word, rfl, (Keyword.ofText?_eq_some_iff _ _).mp known⟩
      · cases read
  · rintro ⟨rfl, s, rfl, same⟩
    simp only [Value.text, (Keyword.ofText?_eq_some_iff (Text.upper s) direction).mpr same]

theorem orderOfEntries_ok_iff (entries : Fields) (order : Option Order) :
    orderOfEntries entries = .ok order ↔ (entries = [] ∧ order = none) ∨
      ∃ terms, entries ≠ [] ∧ List.Forall₂ OfTerm entries terms ∧ order = some (.by terms) := by
  cases entries with
  | nil => simp [orderOfEntries, eq_comm]
  | cons entry rest =>
    simp only [orderOfEntries, List.isEmpty_cons, Bool.false_eq_true, if_false,
      Except.bind_ok_iff, Except.mapM_ok_iff, termOf_ok_iff]
    constructor
    · rintro ⟨terms, each, out⟩
      cases out
      exact .inr ⟨terms, by simp, each, rfl⟩
    · rintro (⟨⟨⟩, _⟩ | ⟨terms, _, each, rfl⟩)
      exact ⟨terms, each, rfl⟩

theorem orderOf_objects {v : Value} {objects : List Fields} (h : Objects v objects) :
    orderOf v = orderOfEntries objects.flatten := by
  cases h with
  | single fields => simp [orderOf]
  | list objects =>
    have read : (objects.map Value.object).mapM orderEntries = .ok objects := by
      rw [Except.mapM_ok_iff, List.forall₂_map_left_iff]
      exact List.forall₂_same.mpr fun _ _ => rfl
    simp only [orderOf, read]
    rfl

theorem orderOf_ok_iff (v : Value) (order : Option Order) :
    orderOf v = .ok order ↔ OfOrder v order := by
  constructor
  · intro read
    have ofObjects : ∀ objects, Objects v objects → OfOrder v order := by
      intro objects h
      rw [orderOf_objects h, orderOfEntries_ok_iff] at read
      rcases read with ⟨empty, rfl⟩ | ⟨terms, nonempty, each, rfl⟩
      · exact .nothing h empty
      · exact .terms h nonempty each
    cases v with
    | null =>
      cases read
      exact .absent
    | string s =>
      simp only [orderOf] at read
      split at read
      · rename_i same
        cases read
        subst same
        exact .random
      · cases read
    | object fields => exact ofObjects _ (.single fields)
    | list items =>
      simp only [orderOf, Except.bind_ok_iff] at read
      obtain ⟨objects, entries, _⟩ := read
      obtain rfl := orderEntries_mapM entries
      exact ofObjects _ (.list objects)
    | _ => cases read
  · rintro (_ | _ | ⟨h, empty⟩ | ⟨h, nonempty, each⟩)
    · rfl
    · rfl
    · rw [orderOf_objects h, empty]
      rfl
    · rw [orderOf_objects h, orderOfEntries_ok_iff]
      exact .inr ⟨_, nonempty, each, rfl⟩

/-- A value is read as a query exactly if it is an object that means this query. -/
theorem normalize_ok_iff (v : Value) (q : Query) :
    normalize v = .ok q ↔ ∃ fields, v = .object fields ∧ OfQuery fields q := by
  have assembled := fun fields =>
    @assemble_valid_iff [] fields (.valid q.filters) (.valid q.order) (.valid q.joins) q
  simp only [Field.required_eq_valid_iff Field.tableName_eq_valid_iff,
    Field.orElse_eq_valid_iff Field.string_eq_valid_iff,
    Field.orElse_eq_valid_iff Field.keyword_eq_valid_iff,
    Field.orElse_eq_valid_iff Field.pageSize_eq_valid_iff,
    Field.orElse_eq_valid_iff Field.page_eq_valid_iff,
    Field.orElse_eq_valid_iff Field.optionalString_eq_valid_iff, true_and] at assembled
  constructor
  · intro accepted
    obtain ⟨fields, rfl, joins, filters, order, read⟩ := normalize_ok accepted
    obtain ⟨⟨_, table, rfl, named⟩, tablePrefix, connective, operator, pageSize, page, mode⟩ :=
      (assembled fields).mp read
    exact ⟨fields, rfl, table, named, tablePrefix, (members_ok_iff joinOf_ok_iff _ _ _).mp joins,
      (members_ok_iff filterOf_ok_iff _ _ _).mp filters, connective, operator,
      (orderOf_ok_iff _ _).mp order, pageSize, page, mode⟩
  · rintro ⟨fields, rfl, means⟩
    have joins : joinsOf (valueAt fields "join") = .ok q.joins :=
      (members_ok_iff joinOf_ok_iff _ _ _).mpr means.joins
    have filters : filtersOf (valueAt fields "columns") = .ok q.filters :=
      (members_ok_iff filterOf_ok_iff _ _ _).mpr means.filters
    have order := (orderOf_ok_iff _ _).mpr means.order
    have read := (assembled fields).mpr ⟨⟨_, means.table, rfl, means.named⟩, means.tablePrefix,
      means.connective, means.operator, means.pageSize, means.page, means.mode⟩
    simp only [normalize, means.table, Option.isNone_some, Bool.false_eq_true, if_false, joins,
      filters, order, bind, Except.bind, read]

end Query
end PagedQuery
