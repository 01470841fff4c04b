import Mathlib.Data.List.Permutation
import PagedQuery.Proofs.Json.Contents
import PagedQuery.Proofs.Query.Fields
import PagedQuery.Proofs.Value.Opening

/-! Query objects are accepted exactly when they belong to the grammar, and anything else is
refused as a bad configuration, unless what is to be refused has no text to be named by. Each stage
of reading decides one part of the grammar. -/
namespace PagedQuery

open Grammar

def Failure.IsConfig (f : Failure) : Prop := ∃ r, f = .reported r ∧ r.kind = .queryConfig

theorem Failure.queryConfig_isConfig (message : String) : (queryConfig message).IsConfig :=
  ⟨_, rfl, rfl⟩

theorem Failure.refused_isConfig (message : String) (found : List Violation) :
    (refused message found).IsConfig :=
  ⟨_, rfl, rfl⟩

namespace Query

theorem isScalar_iff (v : Value) : isScalar v = true ↔ Scalar v := by
  cases v with
  | string s => exact ⟨fun _ => .string s, fun _ => rfl⟩
  | int n => exact ⟨fun _ => .int n, fun _ => rfl⟩
  | real x => exact ⟨fun finite => .real finite, fun | .real finite => finite⟩
  | _ => exact ⟨nofun, nofun⟩

theorem operator_valid (fields : Fields) :
    (Field.optionalKeyword Operator [.name "equality_operator"]
      ((Entries.find? operatorName fields).getD .null)).Valid ↔
    Optional fields [operatorName] fun v => v = .null ∨ OneOf operators v := by
  rw [Field.optionalKeyword_valid]
  simp only [Optional, List.findSome?_cons, List.findSome?_nil]
  cases Entries.find? operatorName fields with
  | none => simp
  | some v => simp [operators, Keyword.all, Keyword.text]

theorem orderEntries_mapM {items : List Value} {lists : List Fields}
    (read : items.mapM orderEntries = .ok lists) : items = lists.map .object := by
  have each := Except.mapM_ok_iff.mp read
  induction each with
  | nil => rfl
  | @cons v entries items lists entry _ ih =>
    cases v with
    | object fields =>
      cases entry
      rw [List.map_cons, ← ih (Except.mapM_ok_iff.mpr ‹_›)]
    | _ => cases entry

theorem listed_valueAt (R : Fields → Prop) (fields : Fields) (name : String) :
    Listed R (valueAt fields name) ↔ Optional fields [name] (Listed R) := by
  simp only [valueAt, Optional, List.findSome?_cons, List.findSome?_nil]
  cases Entries.find? name fields with
  | none => simp [show Listed R .null from .nothing rfl]
  | some v => simp

theorem orderValue_eq (fields : Fields) : ∃ name, orderValue fields = valueAt fields name := by
  unfold orderValue
  split
  · exact ⟨"order_by", rfl⟩
  · exact ⟨"orderBy", rfl⟩

end Query

section Deciding

variable [Runtime]

/-- A failure to write some part of a value as text. -/
def Failure.Unnamed (v : Value) (f : Failure) : Prop :=
  ∃ part e, Value.Occurs part v ∧ part.text = .error e ∧ f = .fault e

theorem Failure.Unnamed.not_hasText {v : Value} {f : Failure} (unnamed : f.Unnamed v) :
    ¬ v.HasText := by
  obtain ⟨part, e, occurs, failed, _⟩ := unnamed
  intro written
  have part_written : part.HasText := written.of_occurs occurs
  exact part_written.text_ne_error e failed

/-- A part that is named where it is refused is refused, or it has no text. -/
theorem Failure.naming_refuses {part v : Value} (occurs : Value.Occurs part v)
    {text : Except Fault String} (written : ∀ e, text = .error e → part.text = .error e)
    {failure : String → Failure} (config : ∀ s, (failure s).IsConfig) :
    (naming text failure).IsConfig ∨ (naming text failure).Unnamed v := by
  cases text with
  | ok s => exact .inl (config s)
  | error e => exact .inr ⟨part, e, occurs, written e rfl, rfl⟩

/-- A reading of a value succeeds exactly if `P` holds. Otherwise it refuses the configuration, or
fails where a part of the value has no text. -/
def Decides {α : Type} (v : Value) (x : Except Failure α) (P : Prop) : Prop :=
  match x with
  | .ok _ => P
  | .error f => ¬ P ∧ (f.IsConfig ∨ f.Unnamed v)

namespace Decides

variable {α β : Type} {v w : Value} {x : Except Failure α} {P Q : Prop}

theorem ok {a : α} (h : P) : Decides v (.ok a) P := h

theorem queryConfig {message : String} (refuted : ¬ P) :
    Decides v (.error (.queryConfig message) : Except Failure α) P :=
  ⟨refuted, .inl (Failure.queryConfig_isConfig message)⟩

theorem congr (h : Decides v x P) (same : P ↔ Q) : Decides v x Q := by
  cases x with
  | ok a => exact same.mp h
  | error f => exact ⟨mt same.mpr h.1, h.2⟩

theorem within (h : Decides v x P) (inside : ∀ part e, Value.Occurs part v → part.text = .error e →
    Value.Occurs part w) : Decides w x P := by
  cases x with
  | ok a => exact h
  | error f =>
    refine ⟨h.1, h.2.imp_right ?_⟩
    rintro ⟨part, e, occurs, failed, same⟩
    exact ⟨part, e, inside part e occurs failed, failed, same⟩

theorem item {items : List Value} (h : Decides v x P) (member : v ∈ items) :
    Decides (.list items) x P :=
  h.within fun _ _ occurs _ => .item member occurs

theorem entry {p : String × Value} {entries : Fields} (h : Decides p.2 x P)
    (member : p ∈ entries) : Decides (.object entries) x P :=
  h.within fun _ _ occurs _ => .entry member occurs

theorem iff (h : Decides v x P) : (∃ a, x = .ok a) ↔ P := by
  cases x with
  | ok a => exact ⟨fun _ => h, fun _ => ⟨a, rfl⟩⟩
  | error f =>
    constructor
    · rintro ⟨_, ⟨⟩⟩
    · exact fun holds => absurd holds h.1

theorem error (h : Decides v x P) (refuted : ¬ P) :
    ∃ f, x = .error f ∧ (f.IsConfig ∨ f.Unnamed v) := by
  cases x with
  | ok a => exact absurd h refuted
  | error f => exact ⟨f, rfl, h.2⟩

theorem config (h : Decides v x P) (refuted : ¬ P) (written : v.HasText) :
    ∃ r, x = .error (.reported r) ∧ r.kind = .queryConfig := by
  obtain ⟨f, failed, ⟨r, rfl, kind⟩ | unnamed⟩ := h.error refuted
  · exact ⟨r, failed, kind⟩
  · exact absurd written unnamed.not_hasText

theorem bind {f : α → Except Failure β} (first : Decides v x P)
    (next : ∀ a, x = .ok a → Decides v (f a) Q) : Decides v (x >>= f) (P ∧ Q) := by
  cases x with
  | ok a => exact (next a rfl).congr (by simp [show P from first])
  | error g => exact ⟨fun both => first.1 both.1, first.2⟩

theorem mapM {R : α → Prop} {f : α → Except Failure β} {items : List α}
    (each : ∀ a ∈ items, Decides v (f a) (R a)) :
    Decides v (items.mapM f) (∀ a ∈ items, R a) := by
  induction items with
  | nil => exact ok (by simp)
  | cons a rest ih =>
    obtain ⟨first, later⟩ := List.forall_mem_cons.mp each
    rw [List.mapM_cons]
    refine (first.bind fun b _ => ((ih later).bind fun bs _ => ok trivial)).congr ?_
    simp

theorem forM {R : α → Prop} {f : α → Except Failure PUnit} {items : List α}
    (each : ∀ a ∈ items, Decides v (f a) (R a)) :
    Decides v (items.forM f) (∀ a ∈ items, R a) := by
  induction items with
  | nil => exact ok (by simp)
  | cons a rest ih =>
    obtain ⟨first, later⟩ := List.forall_mem_cons.mp each
    exact (first.bind fun _ _ => ih later).congr (by simp)

theorem checked {y : Checked β} (h : y.Valid ↔ P) (valid : ∀ b, y = .valid b → ∃ a, x = .ok a)
    (invalid : ∀ found, y = .invalid found →
      ∃ f, x = .error f ∧ (f.IsConfig ∨ f.Unnamed v)) : Decides v x P := by
  cases y with
  | valid b =>
    obtain ⟨a, rfl⟩ := valid b rfl
    exact h.mp ⟨b, rfl⟩
  | invalid found =>
    obtain ⟨f, rfl, reported⟩ := invalid found rfl
    refine ⟨fun holds => ?_, reported⟩
    obtain ⟨_, ⟨⟩⟩ := h.mpr holds

end Decides

namespace Query

theorem membersOf_decides {α : Type} {R : Fields → Prop} {read : Value → Except Failure α}
    (each : ∀ v, Decides v (read v) (∃ fields, v = .object fields ∧ R fields)) (message : String)
    (v : Value) :
    Decides v (membersOf message v >>= fun items => items.mapM read) (Listed R v) := by
  cases empty : v.isEmpty with
  | true =>
    simp only [membersOf, empty, if_true]
    exact .ok (.nothing empty)
  | false =>
    simp only [membersOf, empty, Bool.false_eq_true, if_false]
    cases v with
    | object fields =>
      have single := List.forall_mem_singleton.mpr (each (.object fields))
      refine (Decides.mapM single).congr ?_
      simp only [List.forall_mem_singleton]
      constructor
      · rintro ⟨_, ⟨⟩, object⟩
        exact .single object
      · rintro (empty' | object)
        · cases empty'.symm.trans empty
        · exact ⟨fields, rfl, object⟩
    | list items =>
      refine (Decides.mapM fun v member => (each v).item member).congr ?_
      constructor
      · exact fun objects => .list objects
      · rintro (empty' | _ | objects)
        · cases empty'.symm.trans empty
        · exact objects
    | _ =>
      refine .queryConfig ?_
      rintro (empty' | _ | _)
      cases empty'.symm.trans empty

theorem joinOf_decides (v : Value) :
    Decides v (joinOf v) (∃ fields, v = .object fields ∧ JoinObject fields) := by
  cases v with
  | object fields =>
    suffices Decides (.object fields) (joinOf (.object fields)) (JoinObject fields) from
      this.congr (by simp)
    simp only [joinOf]
    cases table : Entries.find? "table" fields with
    | none =>
      refine .queryConfig fun h => ?_
      obtain ⟨_, found, _⟩ := h.table
      cases table.symm.trans found
    | some name =>
      cases on : Entries.find? "on" fields with
      | none =>
        refine .queryConfig fun h => ?_
        obtain ⟨_, found, _⟩ := h.on
        cases on.symm.trans found
      | some pairs =>
        cases pairs with
        | object entries =>
          refine .checked (Join.read_valid [] fields) (fun join read => ⟨join, by simp only [read]⟩)
            fun found read => ⟨_, by simp only [read]; rfl, ?_⟩
          exact Failure.naming_refuses (.entry (Entries.mem_of_find? table) .here) (fun _ => id)
            fun _ => Failure.refused_isConfig _ _
        | _ =>
          refine .queryConfig fun h => ?_
          obtain ⟨_, found, entries, rfl, _⟩ := h.on
          cases on.symm.trans found
  | _ =>
    refine .queryConfig ?_
    rintro ⟨_, ⟨⟩, _⟩

theorem shown_cases {part v : Value} (occurs : Value.Occurs part v) (failure : String → String) :
    (Failure.naming part.quoted fun shown => .queryConfig (failure shown)).IsConfig ∨
      (Failure.naming part.quoted fun shown => .queryConfig (failure shown)).Unnamed v :=
  Failure.naming_refuses occurs (fun _ => Value.text_of_quoted_error) fun _ =>
    Failure.queryConfig_isConfig _

theorem checkColumnValue_decides (column : String) (v : Value) :
    Decides v (checkColumnValue column v) (Comparand v) := by
  cases v with
  | string s => exact .ok (.scalar (.string s))
  | int n => exact .ok (.scalar (.int n))
  | real x =>
    cases finite : x.isFinite with
    | true =>
      simp only [checkColumnValue, isScalar, finite, if_true]
      exact .ok (.scalar (.real finite))
    | false =>
      simp only [checkColumnValue, isScalar, finite, Bool.false_eq_true, if_false]
      refine ⟨?_, shown_cases .here _⟩
      rintro (⟨_ | _ | finite'⟩)
      cases finite'.symm.trans finite
  | list items =>
    have noScalar : isScalar (.list items) = false := rfl
    simp only [checkColumnValue, noScalar, Bool.false_eq_true, if_false]
    cases other : items.find? fun item => !isScalar item with
    | none =>
      simp only [List.find?_eq_none, Bool.not_eq_true', Bool.not_eq_false] at other
      exact .ok (.list fun item member => (isScalar_iff item).mp (other item member))
    | some item =>
      have refuted := List.find?_some other
      have member := List.mem_of_find?_eq_some other
      refine ⟨?_, shown_cases (.item member .here) _⟩
      rintro (⟨⟨⟩⟩ | all)
      simp [(isScalar_iff item).mpr (all item member)] at refuted
  | _ =>
    refine ⟨?_, shown_cases .here _⟩
    rintro ⟨⟨⟩⟩

theorem filterOf_decides (v : Value) :
    Decides v (filterOf v) (∃ fields, v = .object fields ∧ FilterObject fields) := by
  cases v with
  | object fields =>
    have columns : Decides (.object fields)
        ((Entries.erase operatorName fields).forM fun p => checkColumnValue p.1 p.2)
        (∀ p ∈ Entries.erase operatorName fields, Comparand p.2) :=
      .forM fun p member =>
        (checkColumnValue_decides p.1 p.2).entry (List.mem_of_mem_filter member)
    refine (columns.bind fun _ _ => .checked (operator_valid fields)
      (fun operator read => ⟨⟨Entries.erase operatorName fields, operator⟩, by simp only [read]⟩)
      (fun found read => ⟨_, by simp only [read],
        .inl (Failure.refused_isConfig "Invalid column group" found)⟩)).congr ?_
    constructor
    · rintro ⟨columns, operator⟩
      refine ⟨fields, rfl, fun p member other => columns p ?_, operator⟩
      simp only [Entries.erase, List.mem_filter]
      exact ⟨member, by simp [operatorName, other]⟩
    · rintro ⟨_, ⟨⟩, columns, operator⟩
      refine ⟨fun p member => ?_, operator⟩
      simp only [Entries.erase, List.mem_filter] at member
      exact columns p member.1 (by simpa [operatorName] using member.2)
  | _ =>
    refine .queryConfig ?_
    rintro ⟨_, ⟨⟩, _⟩

theorem direction_iff {v : Value} {s : String} (written : v.text = .ok s) :
    (∃ d, Keyword.ofText? Direction (Text.upper s) = some d) ↔ IsDirection v := by
  have words : (Keyword.all : List Direction).map Keyword.text = ["ASC", "DESC"] := rfl
  rw [Keyword.ofText?_iff, words, List.mem_cons, List.mem_singleton]
  by_cases string : ∃ s, v = .string s
  · obtain ⟨s, rfl⟩ := string
    cases written
    simp [IsDirection]
  · -- other values are read by their text too, but no such text spells a direction
    have opens := Value.text_opensNeutral (fun s same => string ⟨s, same⟩) written
    constructor
    · rintro (same | same)
      · exact absurd (congrArg String.toList same) (opens.upper _).1
      · exact absurd (congrArg String.toList same) (opens.upper _).2
    · rintro ⟨s, same, _⟩
      exact absurd ⟨s, same⟩ string

theorem termOf_decides (entry : String × Value) :
    Decides entry.2 (termOf entry) (IsDirection entry.2) := by
  cases written : entry.2.text with
  | error e =>
    simp only [termOf, written]
    refine ⟨?_, .inr ⟨_, e, .here, written, rfl⟩⟩
    rintro ⟨s, same, _⟩
    rw [same] at written
    cases written
  | ok word =>
    simp only [termOf, written]
    cases known : Keyword.ofText? Direction (Text.upper word) with
    | some d => exact .ok ((direction_iff written).mp ⟨d, known⟩)
    | none =>
      refine .queryConfig fun h => ?_
      obtain ⟨d, known'⟩ := (direction_iff written).mpr h
      cases known.symm.trans known'

theorem orderOfEntries_decides {v : Value} {entries : Fields}
    (inside : ∀ p ∈ entries, Value.Occurs p.2 v) :
    Decides v (orderOfEntries entries) (∀ p ∈ entries, IsDirection p.2) := by
  unfold orderOfEntries
  split
  · rename_i empty
    rw [List.isEmpty_iff] at empty
    subst empty
    exact .ok (by simp)
  · have terms := Decides.mapM fun p member =>
      (termOf_decides p).within fun _ _ occurs _ => occurs.trans (inside p member)
    refine (terms.bind fun _ _ => .ok trivial).congr ?_
    simp

theorem orderEntries_decides (v : Value) :
    Decides v (orderEntries v) (∃ entries, v = .object entries) := by
  cases v with
  | object entries => exact .ok ⟨entries, rfl⟩
  | _ =>
    refine .queryConfig ?_
    rintro ⟨_, ⟨⟩⟩

theorem orderOf_list_decides (items : List Value) :
    Decides (.list items) (orderOf (.list items)) (IsOrder (.list items)) := by
  have objects : Decides (.list items) (items.mapM orderEntries)
      (∀ v ∈ items, ∃ entries, v = .object entries) :=
    Decides.mapM fun v member => (orderEntries_decides v).item member
  -- all members are taken for objects before the direction of any entry is read
  refine (objects.bind (Q := ∀ entries, .object entries ∈ items → ∀ p ∈ entries,
    IsDirection p.2) fun lists read => ?_).congr ?_
  · obtain rfl := orderEntries_mapM read
    have inside : ∀ p ∈ lists.flatten, Value.Occurs p.2 (.list (lists.map .object)) := by
      intro p member
      obtain ⟨entries, listed, member⟩ := List.mem_flatten.mp member
      exact .item (List.mem_map_of_mem listed) (.entry member .here)
    refine (orderOfEntries_decides inside).congr ?_
    simp only [List.mem_flatten, List.mem_map]
    constructor
    · rintro directions _ ⟨_, member, ⟨⟩⟩ p inside
      exact directions p ⟨_, member, inside⟩
    · rintro directions p ⟨entries, member, inside⟩
      exact directions entries ⟨entries, member, rfl⟩ p inside
  · constructor
    · rintro ⟨objects, directions⟩
      refine .list fun v member => ?_
      obtain ⟨entries, rfl⟩ := objects v member
      exact ⟨entries, rfl, directions entries member⟩
    · rintro (_ | _ | _ | objects)
      refine ⟨fun v member => ?_, fun entries member => ?_⟩
      · obtain ⟨entries, same, _⟩ := objects v member
        exact ⟨entries, same⟩
      · obtain ⟨_, ⟨⟩, directions⟩ := objects _ member
        exact directions

theorem orderOf_decides (v : Value) : Decides v (orderOf v) (IsOrder v) := by
  cases v with
  | null => exact .ok .absent
  | string s =>
    simp only [orderOf]
    split
    · rename_i same
      subst same
      exact .ok .random
    · rename_i other
      refine .queryConfig ?_
      rintro ⟨⟩
      exact other rfl
  | object entries =>
    refine (orderOfEntries_decides fun p member => .entry member .here).congr ⟨.object, ?_⟩
    rintro (_ | _ | directions)
    exact directions
  | list items => exact orderOf_list_decides items
  | _ =>
    refine .queryConfig ?_
    rintro ⟨⟩

theorem decides_valueAt {α : Type} {x : Except Failure α} {P : Prop} {fields : Fields}
    {name : String} (h : Decides (valueAt fields name) x P) : Decides (.object fields) x P := by
  refine h.within fun part e occurs failed => ?_
  rw [valueAt] at occurs
  cases found : Entries.find? name fields with
  | none =>
    rw [found] at occurs
    cases occurs
    cases failed
  | some v =>
    rw [found] at occurs
    exact .entry (Entries.mem_of_find? found) occurs

theorem normalize_decides (v : Value) : Decides v (normalize v) (Accepted v) := by
  cases v with
  | object fields =>
    suffices Decides (.object fields) (normalize (.object fields)) (QueryObject fields) from
      this.congr (by simp [Accepted])
    simp only [normalize]
    split
    -- the missing table is reported first, though the last stage would refuse it too
    · rename_i missing
      refine .queryConfig fun h => ?_
      obtain ⟨_, found, _⟩ := h.table
      simp [found] at missing
    · have joins := decides_valueAt
        (membersOf_decides joinOf_decides joinMessage (valueAt fields "join"))
      have filters := decides_valueAt
        (membersOf_decides filterOf_decides columnsMessage (valueAt fields "columns"))
      have order : Decides (.object fields) (orderOf (orderValue fields))
          (IsOrder (orderValue fields)) := by
        obtain ⟨name, same⟩ := orderValue_eq fields
        rw [same]
        exact decides_valueAt (orderOf_decides _)
      refine (joins.bind fun joins _ => filters.bind fun filters _ => order.bind fun order _ =>
        .checked (assemble_valid [] fields filters order joins)
          (fun q read => ⟨q, by simp only [read]⟩)
          (fun found read => ⟨_, by simp only [read],
            .inl (Failure.refused_isConfig "Invalid query object" found)⟩)).congr ?_
      rw [listed_valueAt, listed_valueAt]
      constructor
      · rintro ⟨joins, filters, order, remaining⟩
        exact ⟨remaining, joins, filters, order⟩
      · rintro ⟨remaining, joins, filters, order⟩
        exact ⟨joins, filters, order, remaining⟩
  | _ =>
    refine .queryConfig ?_
    rintro ⟨_, ⟨⟩, _⟩

end Query

end Deciding

namespace Query

def namedTracks : Value :=
  .object [("table", .string "tracks"), ("columns", .object [("name", .bool true)])]

theorem namedTracks_refused : ¬ Accepted namedTracks := by
  rintro ⟨_, ⟨⟩, object⟩
  cases object.filters _ rfl with
  | nothing empty => cases empty
  | single filter =>
    rcases filter.columns _ List.mem_cons_self (by decide) with ⟨⟨⟩⟩

end Query
end PagedQuery
