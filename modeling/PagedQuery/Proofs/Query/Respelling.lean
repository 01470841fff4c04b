import Mathlib.Logic.Relation
import PagedQuery.Proofs.Query.Meaning
import PagedQuery.Proofs.Value.Entries

/-! Ways of writing the same query object. A change is to one shorthand, spelling or place;
objects that lead to one another by changes mean the same, however many of them there are. -/
namespace PagedQuery

open Meaning

namespace Respelling

open Entries Query
open Description (connectiveNames operatorNames pageSizeNames orderNames)

inductive Spellings : List String → String → String → Prop
  | first (a b : String) : Spellings [a, b] a b
  | second (a b : String) : Spellings [a, b] b a

inductive OneJoin : Value → Value → Prop
  | same (v : Value) : OneJoin v v
  | renamed {fields : Fields} {old new : String} (spellings : Spellings operatorNames old new)
    (alone : find? new fields = none) :
    OneJoin (.object fields) (.object (rename old new fields))

inductive Joins : Value → Value → Prop
  | wrapped {fields : Fields} (nonempty : fields ≠ []) :
    Joins (.object fields) (.list [.object fields])
  | single {fields others : Fields} (join : OneJoin (.object fields) (.object others)) :
    Joins (.object fields) (.object others)
  | members {items others : List Value} (each : List.Forall₂ OneJoin items others) :
    Joins (.list items) (.list others)

inductive Columns : Value → Value → Prop
  | wrapped {fields : Fields} (nonempty : fields ≠ []) :
    Columns (.object fields) (.list [.object fields])

inductive Orders : Value → Value → Prop
  | split (entries : Fields) :
    Orders (.object entries) (.list (entries.map fun p => .object [p]))
  | regrouped {objects others : List Fields} (same : objects.flatten = others.flatten) :
    Orders (.list (objects.map .object)) (.list (others.map .object))

def compoundNames : List (List String) :=
  [connectiveNames, operatorNames, pageSizeNames, orderNames]

inductive Change (fields : Fields) : Fields → Prop
  | join {v w : Value} (found : find? "join" fields = some v) (alike : Joins v w) :
    Change fields (insert "join" w fields)
  | columns {v w : Value} (found : find? "columns" fields = some v) (alike : Columns v w) :
    Change fields (insert "columns" w fields)
  | order {name : String} {v w : Value} (named : name ∈ orderNames)
    (found : find? name fields = some v) (alike : Orders v w) : Change fields (insert name w fields)
  | dropped {name : String} {v : Value} (named : name ∈ ["join", "columns"])
    (found : find? name fields = some v) (empty : v.isEmpty = true) :
    Change fields (erase name fields)
  | reordered {others : Fields} (unique : (fields.map Prod.fst).Nodup)
    (same : fields.Perm others) : Change fields others
  | renamed {names : List String} {old new : String} (compound : names ∈ compoundNames)
    (spellings : Spellings names old new) (alone : find? new fields = none) :
    Change fields (rename old new fields)

/-- What an object has under some names, of which the first counts. -/
def firstOf (names : List String) (fields : Fields) : Option Value :=
  names.findSome? fun name => find? name fields

/-- Two objects have the same under each of some lists of names. -/
def AgreeOn (all : List (List String)) (fields others : Fields) : Prop :=
  ∀ names ∈ all, firstOf names fields = firstOf names others

section Names

variable {fields others : Fields} {names : List String} {all : List (List String)}
  {old new : String}

theorem firstOf_one (name : String) (fields : Fields) :
    firstOf [name] fields = find? name fields := by
  rw [firstOf, List.findSome?_cons]
  cases find? name fields <;> rfl

theorem firstOf_congr (same : ∀ name ∈ names, find? name fields = find? name others) :
    firstOf names fields = firstOf names others := by
  induction names with
  | nil => rfl
  | cons name rest ih =>
    rw [List.forall_mem_cons] at same
    have tail := ih same.2
    rw [firstOf, firstOf] at tail
    rw [firstOf, firstOf, List.findSome?_cons, List.findSome?_cons, same.1, tail]

/-- Two spellings are one field: it does not matter which of them is used. -/
theorem firstOf_rename (spellings : Spellings names old new) (alone : find? new fields = none)
    (different : old ≠ new) : firstOf names fields = firstOf names (rename old new fields) := by
  have moved : find? new (rename old new fields) = find? old fields := find?_rename_new alone
  have gone := find?_rename_old different fields
  cases spellings <;>
    simp only [firstOf, List.findSome?_cons, List.findSome?_nil, moved, gone, alone]

theorem rename_kept (notOld : old ∉ names) (notNew : new ∉ names) (fields : Fields) :
    ∀ name ∈ names, find? name fields = find? name (rename old new fields) := by
  intro name inside
  have elseOld : name ≠ old := by
    rintro rfl
    exact notOld inside
  have elseNew : name ≠ new := by
    rintro rfl
    exact notNew inside
  exact (find?_rename_other elseOld elseNew fields).symm

theorem AgreeOn.symm (h : AgreeOn all fields others) : AgreeOn all others fields :=
  fun names member => (h names member).symm

theorem AgreeOn.given {α : Type} {default a : α} {R : Value → α → Prop}
    (h : AgreeOn all fields others) (member : names ∈ all)
    (given : Given fields names default R a) : Given others names default R a := by
  unfold Given at given ⊢
  rw [show (names.findSome? fun name => find? name fields) = _ from h names member] at given
  exact given

theorem AgreeOn.found {name : String} {v : Value} (h : AgreeOn all fields others)
    (member : [name] ∈ all) (found : find? name fields = some v) : find? name others = some v := by
  rw [← firstOf_one, ← h _ member, firstOf_one, found]

theorem AgreeOn.elsewhere {changed : List String}
    (kept : ∀ name, name ∉ changed → find? name fields = find? name others)
    (apart : ∀ names ∈ all, ∀ name ∈ names, name ∉ changed) : AgreeOn all fields others := by
  intro names member
  apply firstOf_congr
  intro name inside
  exact kept name (apart names member name inside)

theorem AgreeOn.renamed (spellings : Spellings names old new) (alone : find? new fields = none)
    (different : old ≠ new) (apart : ∀ ns ∈ all, ns = names ∨ (old ∉ ns ∧ new ∉ ns)) :
    AgreeOn all fields (rename old new fields) := by
  intro ns member
  rcases apart ns member with rfl | ⟨notOld, notNew⟩
  · exact firstOf_rename spellings alone different
  · exact firstOf_congr (rename_kept notOld notNew fields)

end Names

def joinNames : List (List String) := [["table"], ["on"], operatorNames, ["type"]]

theorem OfJoin_congr {fields others : Fields} (h : AgreeOn joinNames fields others) {j : Join}
    (means : OfJoin fields j) : OfJoin others j where
  table := h.found (by decide) means.table
  named := means.named
  on := h.found (by decide) means.on
  operator := h.given (by decide) means.operator
  kind := h.given (by decide) means.kind

structure SameReading {α : Type} (x y : Except Failure α) : Prop where
  ok : ∀ a, x = .ok a ↔ y = .ok a
  fault : ∀ e, x = .error (.fault e) ↔ y = .error (.fault e)

namespace SameReading

variable {α β : Type} {x y : Except Failure α}

@[refl] theorem refl (x : Except Failure α) : SameReading x x := ⟨fun _ => .rfl, fun _ => .rfl⟩

theorem symm (h : SameReading x y) : SameReading y x :=
  ⟨fun a => (h.ok a).symm, fun e => (h.fault e).symm⟩

theorem trans {z : Except Failure α} (h : SameReading x y) (h' : SameReading y z) :
    SameReading x z :=
  ⟨fun a => (h.ok a).trans (h'.ok a), fun e => (h.fault e).trans (h'.fault e)⟩

theorem bind (h : SameReading x y) {f g : α → Except Failure β}
    (next : ∀ a, SameReading (f a) (g a)) : SameReading (x >>= f) (y >>= g) where
  ok b := by simp only [Except.bind_ok_iff, h.ok, (next _).ok]
  fault e := by simp only [Except.bind_error_iff, h.ok, h.fault, (next _).fault]

theorem mapM {R : α → α → Prop} {read : α → Except Failure β}
    (each : ∀ a b, R a b → SameReading (read a) (read b)) {as bs : List α}
    (related : List.Forall₂ R as bs) : SameReading (as.mapM read) (bs.mapM read) := by
  induction related with
  | nil => rfl
  | cons head _ ih =>
    rw [List.mapM_cons, List.mapM_cons]
    exact (each _ _ head).bind fun b => ih.bind fun bs => .refl _

end SameReading

theorem membersOf_empty {v : Value} (empty : v.isEmpty = true) (message : String) :
    membersOf message v = .ok [] := by
  simp only [membersOf, empty, if_true]

theorem membersOf_object {fields : Fields} (nonempty : fields ≠ []) (message : String) :
    membersOf message (.object fields) = .ok [.object fields] := by
  simp [membersOf, Value.isEmpty, nonempty]

theorem membersOf_list (items : List Value) (message : String) :
    membersOf message (.list items) = .ok items := by
  cases items <;> simp [membersOf, Value.isEmpty]

theorem Orders.present {v w : Value} (h : Orders v w) : v ≠ .null ∧ w ≠ .null := by
  cases h <;> exact ⟨nofun, nofun⟩

section Values

variable {fields others : Fields}

theorem valueAt_congr {name : String} (same : find? name fields = find? name others) :
    valueAt fields name = valueAt others name := by
  rw [valueAt, valueAt, same]

theorem valueAt_found {name : String} {v : Value} (found : find? name fields = some v) :
    valueAt fields name = v := by
  rw [valueAt, found]
  rfl

theorem orderValue_congr (same : ∀ name ∈ orderNames, find? name fields = find? name others) :
    orderValue fields = orderValue others := by
  rw [orderValue, orderValue, valueAt_congr (same "orderBy" (by decide)),
    valueAt_congr (same "order_by" (by decide))]

theorem orderValue_first {v : Value} (found : find? "orderBy" fields = some v)
    (present : v ≠ .null) :
    orderValue fields = v := by
  rw [orderValue, valueAt_found found]
  split
  · exact absurd rfl present
  · rfl

theorem orderValue_second (absent : valueAt fields "orderBy" = .null) :
    orderValue fields = valueAt fields "order_by" := by
  rw [orderValue, absent]

theorem orderValue_alone {old new : String} (spellings : Spellings orderNames old new)
    (alone : find? new fields = none) : orderValue fields = valueAt fields old := by
  have missing : valueAt fields new = .null := by
    rw [valueAt, alone]
    rfl
  cases spellings with
  | first =>
    rw [orderValue, missing]
    split
    · exact Eq.symm ‹_›
    · rfl
  | second => exact orderValue_second missing

theorem insert_kept (key : String) (v : Value) (fields : Fields) :
    ∀ name, name ∉ [key] → find? name fields = find? name (insert key v fields) := by
  intro name outside
  exact (find?_insert_other (by simpa using outside) fields).symm

theorem erase_kept (key : String) (fields : Fields) :
    ∀ name, name ∉ [key] → find? name fields = find? name (erase key fields) := by
  intro name outside
  exact (find?_erase_other (by simpa using outside) fields).symm

end Values

def fieldNames : List (List String) :=
  [["table"], ["prefix"], connectiveNames, operatorNames, pageSizeNames, ["page"], ["mode"]]

theorem Spellings.swap {names : List String} {old new : String} (h : Spellings names old new) :
    Spellings names new old := by
  cases h with
  | first => exact .second _ _
  | second => exact .first _ _

theorem Spellings.apart {names : List String} {old new : String} (compound : names ∈ compoundNames)
    (h : Spellings names old new) :
    old ≠ new ∧ ∀ ns ∈ ["join"] :: ["columns"] :: orderNames :: fieldNames,
      ns = names ∨ (old ∉ ns ∧ new ∉ ns) := by
  have fields : names = connectiveNames ∨ names = operatorNames ∨ names = pageSizeNames ∨
      names = orderNames := by
    simpa [compoundNames] using compound
  rcases fields with rfl | rfl | rfl | rfl <;> cases h <;> decide

section Reading

variable [Runtime]

/-- A join that is refused by its table is refused by it in either spelling. -/
theorem joinOf_fault {fields others : Fields} (agree : AgreeOn joinNames fields others) {e : Fault}
    (failed : joinOf (.object fields) = .error (.fault e)) :
    joinOf (.object others) = .error (.fault e) := by
  simp only [joinOf] at failed
  split at failed
  · cases failed
  · cases failed
  · rename_i table entries named paired
    have named' := agree.found (by decide) named
    have paired' := agree.found (by decide) paired
    split at failed
    · cases failed
    · rename_i refused
      simp only [joinOf, named', paired']
      cases read : Join.read [] (.object others) with
      | valid j =>
        have means := OfJoin_congr agree.symm ((Join.read_eq_valid_iff _ _ _).mp read)
        cases refused.symm.trans ((Join.read_eq_valid_iff [] _ _).mpr means)
      | invalid found =>
        cases written : table.text with
        | ok name =>
          rw [written] at failed
          cases failed
        | error f =>
          rw [written] at failed
          cases failed
          rfl
  · cases failed

theorem joinOf_agree {fields others : Fields} (agree : AgreeOn joinNames fields others) :
    SameReading (joinOf (.object fields)) (joinOf (.object others)) where
  ok j := by
    simp only [joinOf_ok_iff, Value.object.injEq, exists_eq_left']
    exact ⟨OfJoin_congr agree, OfJoin_congr agree.symm⟩
  fault e := ⟨joinOf_fault agree, joinOf_fault agree.symm⟩

theorem OneJoin.reads (v w : Value) (h : OneJoin v w) : SameReading (joinOf v) (joinOf w) := by
  cases h with
  | same => rfl
  | renamed spellings alone =>
    exact joinOf_agree
      (.renamed spellings alone (by cases spellings <;> decide) (by cases spellings <;> decide))

theorem Joins.reads {v w : Value} (h : Joins v w) : SameReading (joinsOf v) (joinsOf w) := by
  cases h with
  | wrapped nonempty => rw [joinsOf, joinsOf, membersOf_object nonempty, membersOf_list]
  | @single fields others join =>
    cases fields with
    | nil =>
      cases join <;> rfl
    | cons entry rest =>
      have nonempty : others ≠ [] := by
        cases join <;> simp [rename]
      rw [joinsOf, joinsOf, membersOf_object (List.cons_ne_nil _ _), membersOf_object nonempty]
      exact .mapM OneJoin.reads (.cons join .nil)
  | members each =>
    rw [joinsOf, joinsOf, membersOf_list, membersOf_list]
    exact .mapM OneJoin.reads each

theorem Columns.reads {v w : Value} (h : Columns v w) : filtersOf v = filtersOf w := by
  cases h with
  | wrapped nonempty => rw [filtersOf, filtersOf, membersOf_object nonempty, membersOf_list]

theorem Orders.reads {v w : Value} (h : Orders v w) : orderOf v = orderOf w := by
  cases h with
  | split entries =>
    have one : Objects (.list (entries.map fun p => .object [p])) (entries.map fun p => [p]) := by
      have listed := Objects.list (entries.map fun p => [p])
      rwa [List.map_map] at listed
    have same : (entries.map fun p => [p]).flatten = entries := by
      rw [← List.flatMap_def, List.flatMap_singleton']
    rw [orderOf_objects (.single entries), orderOf_objects one, same, List.flatten_singleton]
  | regrouped same => rw [orderOf_objects (.list _), orderOf_objects (.list _), same]

structure Agree (fields others : Fields) : Prop where
  named : AgreeOn fieldNames fields others
  joins : SameReading (joinsOf (valueAt fields "join")) (joinsOf (valueAt others "join"))
  filters : filtersOf (valueAt fields "columns") = filtersOf (valueAt others "columns")
  order : orderOf (orderValue fields) = orderOf (orderValue others)

theorem Agree.symm {fields others : Fields} (h : Agree fields others) : Agree others fields :=
  ⟨h.named.symm, h.joins.symm, h.filters.symm, h.order.symm⟩

theorem Agree.means {fields others : Fields} (h : Agree fields others) {q : Query}
    (means : OfQuery fields q) : OfQuery others q where
  table := h.named.found (by decide) means.table
  named := means.named
  tablePrefix := h.named.given (by decide) means.tablePrefix
  joins := by
    have read : joinsOf (valueAt fields "join") = .ok q.joins :=
      (members_ok_iff joinOf_ok_iff _ _ _).mpr means.joins
    exact (members_ok_iff joinOf_ok_iff _ _ _).mp ((h.joins.ok _).mp read)
  filters := by
    have read : filtersOf (valueAt fields "columns") = .ok q.filters :=
      (members_ok_iff filterOf_ok_iff _ _ _).mpr means.filters
    exact (members_ok_iff filterOf_ok_iff _ _ _).mp (h.filters ▸ read)
  connective := h.named.given (by decide) means.connective
  operator := h.named.given (by decide) means.operator
  order := (orderOf_ok_iff _ _).mp (h.order ▸ (orderOf_ok_iff _ _).mpr means.order)
  pageSize := h.named.given (by decide) means.pageSize
  page := h.named.given (by decide) means.page
  mode := h.named.given (by decide) means.mode

section Changes

variable {fields others : Fields}

/-- Only the lists of joins and columns can be told apart. -/
theorem Agree.of_kept {changed : List String}
    (kept : ∀ name, name ∉ changed → find? name fields = find? name others)
    (apart : ∀ names ∈ orderNames :: fieldNames, ∀ name ∈ names, name ∉ changed)
    (joins : SameReading (joinsOf (valueAt fields "join")) (joinsOf (valueAt others "join")))
    (filters : filtersOf (valueAt fields "columns") = filtersOf (valueAt others "columns")) :
    Agree fields others where
  named := .elsewhere kept fun names member => apart names (List.mem_cons_of_mem _ member)
  joins := joins
  filters := filters
  order := by
    rw [orderValue_congr fun name member => kept name (apart _ List.mem_cons_self name member)]

theorem Agree.of_found (same : ∀ name, find? name fields = find? name others) :
    Agree fields others := by
  have kept : ∀ name, name ∉ ([] : List String) → find? name fields = find? name others :=
    fun name _ => same name
  refine .of_kept kept (by decide) ?_ ?_
  · rw [valueAt_congr (same "join")]
  · rw [valueAt_congr (same "columns")]

theorem agree_join {v w : Value} (found : find? "join" fields = some v) (alike : Joins v w) :
    Agree fields (insert "join" w fields) := by
  have kept := insert_kept "join" w fields
  refine .of_kept kept (by decide) ?_ ?_
  · rw [valueAt_found found, valueAt_found (find?_insert_self ..)]
    exact alike.reads
  · rw [valueAt_congr (kept "columns" (by decide))]

theorem agree_columns {v w : Value} (found : find? "columns" fields = some v)
    (alike : Columns v w) : Agree fields (insert "columns" w fields) := by
  have kept := insert_kept "columns" w fields
  refine .of_kept kept (by decide) ?_ ?_
  · rw [valueAt_congr (kept "join" (by decide))]
  · rw [valueAt_found found, valueAt_found (find?_insert_self ..)]
    exact alike.reads

theorem agree_order {name : String} {v w : Value} (named : name ∈ orderNames)
    (found : find? name fields = some v) (alike : Orders v w) :
    Agree fields (insert name w fields) := by
  have kept := insert_kept name w fields
  have written : find? name (insert name w fields) = some w := find?_insert_self ..
  have elsewhere : ∀ other, other ∉ orderNames →
      find? other fields = find? other (insert name w fields) := by
    intro other outside
    apply kept
    rw [List.mem_singleton]
    rintro rfl
    exact outside named
  refine ⟨.elsewhere elsewhere (by decide), ?_, ?_, ?_⟩
  · rw [valueAt_congr (elsewhere "join" (by decide))]
  · rw [valueAt_congr (elsewhere "columns" (by decide))]
  · have names : name = "orderBy" ∨ name = "order_by" := by
      simpa [orderNames] using named
    rcases names with rfl | rfl
    · rw [orderValue_first found alike.present.1, orderValue_first written alike.present.2]
      exact alike.reads
    · have first := kept "orderBy" (by decide)
      by_cases absent : valueAt fields "orderBy" = .null
      · rw [orderValue_second absent, orderValue_second (valueAt_congr first ▸ absent),
          valueAt_found found, valueAt_found written]
        exact alike.reads
      · -- the other name counts first, and its value is not null
        cases other : find? "orderBy" fields with
        | none => exact absurd (by rw [valueAt, other]; rfl) absent
        | some u =>
          rw [valueAt_found other] at absent
          rw [orderValue_first other absent, orderValue_first (first ▸ other) absent]

theorem agree_dropped {name : String} {v : Value} (named : name ∈ ["join", "columns"])
    (found : find? name fields = some v) (empty : v.isEmpty = true) :
    Agree fields (erase name fields) := by
  have kept := erase_kept name fields
  have gone : valueAt (erase name fields) name = .null := by
    rw [valueAt, find?_erase_self]
    rfl
  have names : name = "join" ∨ name = "columns" := by
    simpa using named
  rcases names with rfl | rfl
  · refine .of_kept kept (by decide) ?_ ?_
    · rw [valueAt_found found, gone, joinsOf, joinsOf, membersOf_empty empty, membersOf_empty rfl]
    · rw [valueAt_congr (kept "columns" (by decide))]
  · refine .of_kept kept (by decide) ?_ ?_
    · rw [valueAt_congr (kept "join" (by decide))]
    · rw [valueAt_found found, gone, filtersOf, filtersOf, membersOf_empty empty,
        membersOf_empty rfl]

theorem agree_renamed {names : List String} {old new : String} (compound : names ∈ compoundNames)
    (spellings : Spellings names old new) (alone : find? new fields = none) :
    Agree fields (rename old new fields) := by
  obtain ⟨different, apart⟩ := spellings.apart compound
  have agree := AgreeOn.renamed spellings alone different apart
  have join := agree ["join"] (by decide)
  have columns := agree ["columns"] (by decide)
  rw [firstOf_one, firstOf_one] at join columns
  refine ⟨fun ns member => agree ns (by simp [member]), ?_, ?_, ?_⟩
  · rw [valueAt_congr join]
  · rw [valueAt_congr columns]
  · rcases apart orderNames (by decide) with rfl | ⟨notOld, notNew⟩
    · rw [orderValue_alone spellings alone,
        orderValue_alone spellings.swap (find?_rename_old different fields), valueAt, valueAt,
        find?_rename_new alone]
    · rw [orderValue_congr (rename_kept notOld notNew fields)]

theorem Change.agree (h : Change fields others) : Agree fields others := by
  cases h with
  | join found alike => exact agree_join found alike
  | columns found alike => exact agree_columns found alike
  | order named found alike => exact agree_order named found alike
  | dropped named found empty => exact agree_dropped named found empty
  | reordered unique same => exact .of_found (find?_perm unique same)
  | renamed compound spellings alone => exact agree_renamed compound spellings alone

theorem Agree.fault (h : Agree fields others) {e : Fault}
    (failed : Query.normalize (.object fields) = .error (.fault e)) :
    Query.normalize (.object others) = .error (.fault e) := by
  cases table : find? "table" fields with
  | none =>
    simp only [Query.normalize, table, Option.isNone_none, if_true] at failed
    cases failed
  | some v =>
    have table' := h.named.found (by decide) table
    rw [normalize_stages (Option.isSome_of_eq_some table)] at failed
    rw [normalize_stages (Option.isSome_of_eq_some table'), ← h.filters, ← h.order]
    rcases Except.bind_error_iff.mp failed with unread | ⟨joins, read, failed⟩
    · rw [(h.joins.fault e).mp unread]
      rfl
    · rw [(h.joins.ok joins).mp read]
      rcases Except.bind_error_iff.mp failed with unread | ⟨filters, read, failed⟩
      · rw [unread]
        rfl
      · rw [read]
        rcases Except.bind_error_iff.mp failed with unread | ⟨order, read, failed⟩
        · rw [unread]
          rfl
        · split at failed <;> cases failed

theorem Agree.reads (h : Agree fields others) :
    SameReading (normalize (.object fields)) (normalize (.object others)) where
  ok q := by
    simp only [normalize_ok_iff, Value.object.injEq, exists_eq_left']
    exact ⟨h.means, h.symm.means⟩
  fault e := ⟨h.fault, h.symm.fault⟩

/-- However many changes lead from one way of writing to another, the reading stays. -/
theorem reads_of_changes (h : Relation.EqvGen Change fields others) :
    SameReading (normalize (.object fields)) (normalize (.object others)) := by
  induction h with
  | rel _ _ change => exact change.agree.reads
  | refl _ => rfl
  | symm _ _ _ ih => exact ih.symm
  | trans _ _ _ _ _ first second => exact first.trans second

end Changes

end Reading

end Respelling

namespace Query

open Respelling
open Description (pageSizeNames orderNames)

/-- Two readings give the same query, or both refuse the configuration. -/
def ReadAlike (x y : Except Failure Query) : Prop :=
  (∃ q, x = .ok q ∧ y = .ok q) ∨
    ∃ r s, x = .error (.reported r) ∧ r.kind = .queryConfig ∧
      y = .error (.reported s) ∧ s.kind = .queryConfig

def terseTracks : Fields :=
  [("table", .string "tracks"),
   ("join", .object [("table", .string "albums"), ("on", .object [("album", .string "id")]),
     ("equality_operator", .string "LIKE")]),
   ("columns", .object [("genre", .string "rock")]),
   ("order_by", .object [("year", .string "desc"), ("name", .string "asc")]),
   ("items_per_page", .int 25)]

def listedTracks : Fields :=
  [("join", .list [.object [("table", .string "albums"), ("on", .object [("album", .string "id")]),
     ("equalityOperator", .string "LIKE")]]),
   ("table", .string "tracks"),
   ("columns", .list [.object [("genre", .string "rock")]]),
   ("orderBy", .list [.object [("year", .string "desc")], .object [("name", .string "asc")]]),
   ("itemsPerPage", .int 25)]

end Query
end PagedQuery
