import PagedQuery.Proofs.Query.Meaning
import PagedQuery.Proofs.Value.Entries

/-! The wire form of a query: an object in which every part that may be a list is one and no field
is left to its default. It means the query that it was written for, so it is read as that again. -/
namespace PagedQuery

open Meaning

def Number.value : Number → Value
  | whole n => .int n
  | flag b => .bool b
  | real x => .real x

def Join.wire (j : Join) : Fields :=
  [("table", .string j.table),
   ("on", .object (j.on.map fun p => (p.1, .string p.2))),
   ("equalityOperator", .string (Keyword.text j.operator)),
   ("type", .string (Keyword.text j.kind))]

/-- The operator goes last, and is left out if there is none. -/
def Filter.wire (f : Filter) : Fields :=
  f.columns ++ match f.operator with
    | some operator => [("equalityOperator", .string (Keyword.text operator))]
    | none => []

def SortTerm.entry (t : SortTerm) : String × Value := (t.column, .string (Keyword.text t.direction))

def Order.wire : Option Order → Value
  | none => .null
  | some .random => .string randomWord
  | some (.by terms) => .list (terms.map fun t => .object [t.entry])

namespace Query

def wire (q : Query) : Fields :=
  [("table", .string q.table),
   ("prefix", .string q.tablePrefix),
   ("columns", .list (q.filters.map fun f => .object f.wire)),
   ("columnCompare", .string (Keyword.text q.connective)),
   ("equalityOperator", .string (Keyword.text q.operator)),
   ("orderBy", Order.wire q.order),
   ("join", .list (q.joins.map fun j => .object j.wire)),
   ("itemsPerPage", .int q.pageSize),
   ("page", q.page.value),
   ("mode", match q.mode with
     | some mode => .string mode
     | none => .null)]

structure Normal (q : Query) : Prop extends Paged q where
  table : q.table ≠ ""
  joins : ∀ j ∈ q.joins, j.table ≠ ""
  columns : ∀ f ∈ q.filters, ∀ p ∈ f.columns, p.1 ≠ "equalityOperator" ∧ Grammar.Comparand p.2
  order : q.order ≠ some (.by [])

end Query

namespace Meaning

variable {α : Type} {fields : Fields} {name : String} {names : List String} {v : Value}
  {default a : α} {R : Value → α → Prop}

theorem Given.first (found : Entries.find? name fields = some v) (h : R v a) :
    Given fields (name :: names) default R a := by
  simp only [Given, List.findSome?_cons, found]
  exact h

theorem Given.absent (missing : Entries.find? name fields = none) :
    Given fields [name] default R default := by
  simp only [Given, List.findSome?_cons, missing, List.findSome?_nil]

theorem Members.list (objects : List Fields) : Members (.list (objects.map .object)) objects := by
  cases objects with
  | nil => exact .nothing rfl
  | cons fields rest => exact .some rfl (.list (fields :: rest))

end Meaning

theorem Join.wire_means {j : Join} (named : j.table ≠ "") : OfJoin j.wire j where
  table := rfl
  named := named
  on := rfl
  operator := .first rfl rfl
  kind := .first rfl rfl

theorem Filter.wire_means {f : Filter}
    (columns : ∀ p ∈ f.columns, p.1 ≠ "equalityOperator" ∧ Grammar.Comparand p.2) :
    OfFilter f.wire f := by
  have unnamed : Entries.find? "equalityOperator" f.columns = none := by
    rw [Entries.find?_eq_none_iff]
    intro member
    obtain ⟨p, inside, same⟩ := List.mem_map.mp member
    exact (columns p inside).1 same
  obtain ⟨entries, operator⟩ := f
  refine ⟨?_, fun p inside => (columns p inside).2, ?_⟩
  · cases operator with
    | none => simp [wire, Entries.erase_absent unnamed]
    | some operator =>
      rw [wire, Entries.erase_append, Entries.erase_absent unnamed]
      simp [Entries.erase]
  · cases operator with
    | none => exact .absent (by simpa [wire] using unnamed)
    | some operator =>
      refine .first (v := .string (Keyword.text operator)) ?_ rfl
      rw [wire, Entries.find?_append, unnamed]
      exact Entries.find?_cons_self []

theorem Filter.columns_of_means {fields : Fields} {f : Filter} (means : OfFilter fields f) :
    ∀ p ∈ f.columns, p.1 ≠ "equalityOperator" ∧ Grammar.Comparand p.2 := by
  intro p inside
  refine ⟨?_, means.comparands p inside⟩
  rw [means.columns, Entries.erase, List.mem_filter] at inside
  simpa using inside.2

theorem Order.wire_means {order : Option Order} (proper : order ≠ some (.by [])) :
    OfOrder (Order.wire order) order := by
  cases order with
  | none => exact .absent
  | some order =>
    cases order with
    | random => exact .random
    | «by» terms =>
      have objects : Objects (Order.wire (some (.by terms))) (terms.map fun t => [t.entry]) := by
        have listed := Objects.list (terms.map fun t => [t.entry])
        rwa [List.map_map] at listed
      have entries : (terms.map fun t => [t.entry]).flatten = terms.map SortTerm.entry := by
        rw [← List.flatMap_def, List.map_eq_flatMap]
      refine .terms objects ?_ ?_
      · rw [entries]
        simpa using proper
      · rw [entries, List.forall₂_map_left_iff]
        refine List.forall₂_same.mpr fun t _ => ⟨rfl, _, rfl, ?_⟩
        cases t.direction <;> rfl

namespace Query

theorem wire_means {q : Query} (h : Normal q) : OfQuery q.wire q where
  table := rfl
  named := h.table
  tablePrefix := .first rfl rfl
  joins := by
    have members := Members.list (q.joins.map Join.wire)
    rw [List.map_map] at members
    refine ⟨_, members, ?_⟩
    rw [List.forall₂_map_left_iff]
    exact List.forall₂_same.mpr fun j inside => Join.wire_means (h.joins j inside)
  filters := by
    have members := Members.list (q.filters.map Filter.wire)
    rw [List.map_map] at members
    refine ⟨_, members, ?_⟩
    rw [List.forall₂_map_left_iff]
    exact List.forall₂_same.mpr fun f inside => Filter.wire_means (h.columns f inside)
  connective := .first rfl rfl
  operator := .first rfl rfl
  order := by
    have written : orderValue q.wire = Order.wire q.order := by
      have first : valueAt q.wire "orderBy" = Order.wire q.order := rfl
      have second : valueAt q.wire "order_by" = .null := rfl
      rw [orderValue, first, second]
      split
      · rename_i same
        exact same.symm
      · rfl
    rw [written]
    exact Order.wire_means h.order
  pageSize := .first rfl ⟨.int _, h.pageSize⟩
  page := by
    obtain ⟨p, positive, same⟩ := h.page
    refine .first (v := q.page.value) rfl ⟨p, same, ?_, positive⟩
    rw [same]
    exact .int p
  mode := by
    refine .first rfl ?_
    cases q.mode <;> rfl

section Reading

variable [Runtime]

theorem normalize_wire {q : Query} (h : Normal q) : normalize (.object q.wire) = .ok q :=
  (normalize_ok_iff _ _).mpr ⟨_, rfl, wire_means h⟩

theorem normalize_normal {v : Value} {q : Query} (accepted : normalize v = .ok q) : Normal q := by
  obtain ⟨fields, _, means⟩ := (normalize_ok_iff v q).mp accepted
  obtain ⟨_, _, joins⟩ := means.joins
  obtain ⟨_, _, filters⟩ := means.filters
  refine ⟨normalize_paged accepted, means.named, ?_, ?_, normalize_proper accepted⟩
  · have named := joins.flip.imp fun j object (means : OfJoin object j) =>
      And.intro means.named means
    exact (List.forall₂_and_left _ _).mp named |>.1
  · have columns := filters.flip.imp fun f object (means : OfFilter object f) =>
      And.intro (Filter.columns_of_means means) means
    exact (List.forall₂_and_left _ _).mp columns |>.1

/-- The queries that objects are read as are the normal ones. -/
theorem normal_iff (q : Query) : Normal q ↔ ∃ v, normalize v = .ok q :=
  ⟨fun h => ⟨_, normalize_wire h⟩, fun ⟨_, accepted⟩ => normalize_normal accepted⟩

/-- A value is read as the query that it means as an object, every entry of it in its place, and is
refused if it means none. Written back, the query is read as itself. -/
theorem normalize_keeps_and_restores (v : Value) (q : Query) :
    (normalize v = .ok q ↔ ∃ fields, v = .object fields ∧ OfQuery fields q) ∧
      (normalize v = .ok q → Normal q ∧ normalize (.object q.wire) = .ok q) :=
  ⟨normalize_ok_iff v q, fun accepted =>
    ⟨normalize_normal accepted, normalize_wire (normalize_normal accepted)⟩⟩

end Reading

def mixedTracks : Value :=
  .object [
    ("join", .object [("table", .string "albums"), ("on", .object [("album", .string "id")])]),
    ("columns", .list [
      .object [("equalityOperator", .string "IN"), ("genre", .list [.string "rock", .int 7])],
      .object []]),
    ("orderBy", .list [.object [("year", .string "desc")], .object [("name", .string "Asc")]]),
    ("table", .string "tracks"),
    ("page", .string "2")]

open Runtime.Usual in
theorem mixedTracks_restored :
    ∃ q, normalize mixedTracks = .ok q ∧ q.wire = [
      ("table", .string "tracks"),
      ("prefix", .string "server_"),
      ("columns", .list [
        .object [("genre", .list [.string "rock", .int 7]), ("equalityOperator", .string "IN")],
        .object []]),
      ("columnCompare", .string "AND"),
      ("equalityOperator", .string "="),
      ("orderBy", .list [.object [("year", .string "DESC")], .object [("name", .string "ASC")]]),
      ("join", .list [.object [("table", .string "albums"),
        ("on", .object [("album", .string "id")]), ("equalityOperator", .string "="),
        ("type", .string "LEFT JOIN")]]),
      ("itemsPerPage", .int 100),
      ("page", .int 2),
      ("mode", .null)] ∧
      Normal q ∧ normalize (.object q.wire) = .ok q := by
  refine ⟨_, rfl, rfl, ?_⟩
  exact (normalize_keeps_and_restores mixedTracks _).2 rfl

end Query
end PagedQuery
