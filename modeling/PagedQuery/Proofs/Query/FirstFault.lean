import PagedQuery.Proofs.Query.Meaning

/-! Query objects are read in a fixed order, joins before columns before the order of rows, and
reading ends at the first fault. Two objects with the same first fault are refused alike, whatever
stands behind it. -/
namespace PagedQuery

open Grammar

def FailAlike {α : Type} (x y : Except Failure α) : Prop :=
  ∃ f : Failure, x = .error f ∧ y = .error f

inductive FirstFault {α : Type} (Good : α → Prop) (Alike : α → α → Prop) :
    List α → List α → Prop
  | here {a b : α} (alike : Alike a b) (xs ys : List α) :
    FirstFault Good Alike (a :: xs) (b :: ys)
  | left {a : α} {xs ys : List α} (good : Good a) (later : FirstFault Good Alike xs ys) :
    FirstFault Good Alike (a :: xs) ys
  | right {b : α} {xs ys : List α} (good : Good b) (later : FirstFault Good Alike xs ys) :
    FirstFault Good Alike xs (b :: ys)

def Refused {α : Type} (Good : α → Prop) (a b : α) : Prop := a = b ∧ ¬ Good a

theorem FirstFault.of_append {α : Type} {Good : α → Prop} (before : List α) (a : α)
    (xs ys : List α) (good : ∀ b ∈ before, Good b) (bad : ¬ Good a) :
    FirstFault Good (Refused Good) (before ++ a :: xs) (before ++ a :: ys) := by
  induction before with
  | nil => exact .here ⟨rfl, bad⟩ xs ys
  | cons b before ih =>
    obtain ⟨first, rest⟩ := List.forall_mem_cons.mp good
    exact .left first (.right first (ih rest))

namespace FailAlike

variable {α β : Type} {x y : Except Failure α}

theorem bind (alike : FailAlike x y) (f g : α → Except Failure β) :
    FailAlike (x >>= f) (y >>= g) := by
  obtain ⟨failure, rfl, rfl⟩ := alike
  exact ⟨failure, rfl, rfl⟩

theorem after {f g : α → Except Failure β} {a b : α} (left : x = .ok a) (right : y = .ok b)
    (alike : FailAlike (f a) (g b)) : FailAlike (x >>= f) (y >>= g) := by
  subst left right
  exact alike

theorem of_refused {P : Prop} (reads : (∃ a, x = .ok a) ↔ P) (refused : ¬ P) : FailAlike x x := by
  cases x with
  | ok a => exact absurd (reads.mp ⟨a, rfl⟩) refused
  | error f => exact ⟨f, rfl, rfl⟩

/-- Going through a list passes what is good and fails at what is not. -/
theorem through {Good : α → Prop} {Alike : α → α → Prop} (run : List α → Except Failure β)
    (passes : ∀ a rest f, Good a → run rest = .error f → run (a :: rest) = .error f)
    (fails : ∀ a b xs ys, Alike a b → FailAlike (run (a :: xs)) (run (b :: ys))) {xs ys : List α}
    (first : FirstFault Good Alike xs ys) : FailAlike (run xs) (run ys) := by
  induction first with
  | here alike xs ys => exact fails _ _ xs ys alike
  | left good later ih =>
    obtain ⟨failure, left, right⟩ := ih
    exact ⟨failure, passes _ _ failure good left, right⟩
  | right good later ih =>
    obtain ⟨failure, left, right⟩ := ih
    exact ⟨failure, left, passes _ _ failure good right⟩

theorem mapM {Good : α → Prop} {Alike : α → α → Prop} {read : α → Except Failure β}
    (reads : ∀ a, (∃ b, read a = .ok b) ↔ Good a)
    (alike : ∀ a b, Alike a b → FailAlike (read a) (read b)) {xs ys : List α}
    (first : FirstFault Good Alike xs ys) : FailAlike (xs.mapM read) (ys.mapM read) := by
  refine through (fun xs => xs.mapM read) ?_ ?_ first
  · intro a rest f good failed
    obtain ⟨b, done⟩ := (reads a).mpr good
    rw [List.mapM_cons, done, failed]
    rfl
  · intro a b xs ys same
    rw [List.mapM_cons, List.mapM_cons]
    exact (alike a b same).bind _ _

theorem forM {Good : α → Prop} {Alike : α → α → Prop} {check : α → Except Failure PUnit}
    (reads : ∀ a, (∃ b, check a = .ok b) ↔ Good a)
    (alike : ∀ a b, Alike a b → FailAlike (check a) (check b)) {xs ys : List α}
    (first : FirstFault Good Alike xs ys) : FailAlike (xs.forM check) (ys.forM check) := by
  refine through (fun xs => xs.forM check) ?_ ?_ first
  · intro a rest f good failed
    obtain ⟨⟨⟩, done⟩ := (reads a).mpr good
    rw [List.forM, done]
    exact failed
  · intro a b xs ys same
    exact (alike a b same).bind _ _

theorem refused {Good : α → Prop} {read : α → Except Failure β}
    (reads : ∀ a, (∃ b, read a = .ok b) ↔ Good a) (a b : α) (same : Refused Good a b) :
    FailAlike (read a) (read b) := by
  obtain ⟨rfl, bad⟩ := same
  exact of_refused (reads a) bad

end FailAlike

namespace Query

def IsJoin (v : Value) : Prop := ∃ fields, v = .object fields ∧ JoinObject fields

def IsFilter (v : Value) : Prop := ∃ fields, v = .object fields ∧ FilterObject fields

inductive SameJoinFault : Value → Value → Prop
  | same {v : Value} (refused : ¬ Listed JoinObject v) : SameJoinFault v v
  | list {xs ys : List Value} (first : FirstFault IsJoin (Refused IsJoin) xs ys) :
    SameJoinFault (.list xs) (.list ys)

/-- The first columns of two filters that cannot be compared are the same. -/
def SameColumnFault (fields fields' : Fields) : Prop :=
  FirstFault (fun p => Comparand p.2) (Refused fun p => Comparand p.2)
    (Entries.erase "equalityOperator" fields) (Entries.erase "equalityOperator" fields')

inductive SameFilterFault : Value → Value → Prop
  | same {v : Value} (refused : ¬ IsFilter v) : SameFilterFault v v
  | columns {fields fields' : Fields} (first : SameColumnFault fields fields') :
    SameFilterFault (.object fields) (.object fields')

inductive SameFiltersFault : Value → Value → Prop
  | same {v : Value} (refused : ¬ Listed FilterObject v) : SameFiltersFault v v
  | single {fields fields' : Fields} (first : SameColumnFault fields fields') :
    SameFiltersFault (.object fields) (.object fields')
  | list {xs ys : List Value} (first : FirstFault IsFilter SameFilterFault xs ys) :
    SameFiltersFault (.list xs) (.list ys)

inductive SameOrderFault : Value → Value → Prop
  | same {v : Value} (refused : ¬ IsOrder v) : SameOrderFault v v
  | entries {v w : Value} {objects objects' : List Fields} (left : Meaning.Objects v objects)
    (right : Meaning.Objects w objects')
    (first : FirstFault (fun p => IsDirection p.2) (Refused fun p => IsDirection p.2)
      objects.flatten objects'.flatten) : SameOrderFault v w

theorem FirstFault.ne_nil {α : Type} {Good : α → Prop} {Alike : α → α → Prop} {xs ys : List α}
    (first : FirstFault Good Alike xs ys) : xs ≠ [] ∧ ys ≠ [] := by
  induction first with
  | here alike xs ys => simp
  | left good later ih => simp [ih.2]
  | right good later ih => simp [ih.1]

theorem membersOf_nonempty {items : List Value} (nonempty : items ≠ []) (message : String) :
    membersOf message (.list items) = .ok items := by
  have present : (Value.list items).isEmpty = false := by
    simpa [Value.isEmpty] using nonempty
  simp only [membersOf, present, Bool.false_eq_true, if_false]

section Reading

variable [Runtime]

theorem joins_read_iff (v : Value) : (∃ joins, joinsOf v = .ok joins) ↔ Listed JoinObject v :=
  (membersOf_decides joinOf_decides joinMessage v).iff

theorem filters_read_iff (v : Value) :
    (∃ filters, filtersOf v = .ok filters) ↔ Listed FilterObject v :=
  (membersOf_decides filterOf_decides columnsMessage v).iff

theorem SameJoinFault.failAlike {v w : Value} (same : SameJoinFault v w) :
    FailAlike (joinsOf v) (joinsOf w) := by
  cases same with
  | same refused => exact .of_refused (joins_read_iff v) refused
  | list first =>
    obtain ⟨left, right⟩ := FirstFault.ne_nil first
    refine .after (membersOf_nonempty left _) (membersOf_nonempty right _) ?_
    have reads (v : Value) := (joinOf_decides v).iff
    exact .mapM reads (.refused reads) first

theorem SameColumnFault.failAlike {fields fields' : Fields}
    (first : SameColumnFault fields fields') :
    FailAlike (filterOf (.object fields)) (filterOf (.object fields')) := by
  have reads (p : String × Value) := (checkColumnValue_decides p.1 p.2).iff
  exact (FailAlike.forM reads (.refused reads) first).bind _ _

theorem SameFilterFault.failAlike (v w : Value) (same : SameFilterFault v w) :
    FailAlike (filterOf v) (filterOf w) := by
  cases same with
  | same refused => exact .of_refused (filterOf_decides v).iff refused
  | columns first => exact first.failAlike

theorem SameFiltersFault.failAlike {v w : Value} (same : SameFiltersFault v w) :
    FailAlike (filtersOf v) (filtersOf w) := by
  cases same with
  | same refused => exact .of_refused (filters_read_iff v) refused
  | @single fields fields' first =>
    have member : ∀ fields : Fields, fields ≠ [] →
        membersOf columnsMessage (.object fields) = .ok [.object fields] := by
      intro fields nonempty
      have present : (Value.object fields).isEmpty = false := by
        simpa [Value.isEmpty] using nonempty
      simp only [membersOf, present, Bool.false_eq_true, if_false]
    obtain ⟨left, right⟩ := FirstFault.ne_nil first
    refine .after (member fields ?_) (member fields' ?_) ?_
    · rintro rfl
      exact left rfl
    · rintro rfl
      exact right rfl
    · exact .mapM (fun v => (filterOf_decides v).iff) SameFilterFault.failAlike
        (.here (.columns first) [] [])
  | list first =>
    obtain ⟨left, right⟩ := FirstFault.ne_nil first
    refine .after (membersOf_nonempty left _) (membersOf_nonempty right _) ?_
    exact .mapM (fun v => (filterOf_decides v).iff) SameFilterFault.failAlike first

theorem SameOrderFault.failAlike {v w : Value} (same : SameOrderFault v w) :
    FailAlike (orderOf v) (orderOf w) := by
  cases same with
  | same refused => exact .of_refused (orderOf_decides v).iff refused
  | entries left right first =>
    obtain ⟨some, some'⟩ := FirstFault.ne_nil first
    rw [orderOf_objects left, orderOf_objects right, orderOfEntries, orderOfEntries,
      if_neg (by simpa using some), if_neg (by simpa using some')]
    have reads (p : String × Value) := (termOf_decides p).iff
    exact (FailAlike.mapM reads (.refused reads) first).bind _ _

/-- Two objects with a table fail alike when their joins have the same first fault; when their joins
are accepted and their columns have the same first fault; and when both are accepted and the orders
of their rows have the same first fault. All else that the objects hold makes no difference, nor
does anything that stands behind the fault. -/
theorem refused_at_first_fault {fields fields' : Fields}
    (table : (Entries.find? "table" fields).isSome = true)
    (table' : (Entries.find? "table" fields').isSome = true) :
    (SameJoinFault (valueAt fields "join") (valueAt fields' "join") →
      FailAlike (normalize (.object fields)) (normalize (.object fields'))) ∧
    (Listed JoinObject (valueAt fields "join") → Listed JoinObject (valueAt fields' "join") →
      SameFiltersFault (valueAt fields "columns") (valueAt fields' "columns") →
      FailAlike (normalize (.object fields)) (normalize (.object fields'))) ∧
    (Listed JoinObject (valueAt fields "join") → Listed JoinObject (valueAt fields' "join") →
      Listed FilterObject (valueAt fields "columns") →
      Listed FilterObject (valueAt fields' "columns") →
      SameOrderFault (orderValue fields) (orderValue fields') →
      FailAlike (normalize (.object fields)) (normalize (.object fields'))) := by
  rw [normalize_stages table, normalize_stages table']
  refine ⟨fun same => same.failAlike.bind _ _, ?_, ?_⟩
  · intro joins joins' same
    obtain ⟨_, left⟩ := (joins_read_iff _).mpr joins
    obtain ⟨_, right⟩ := (joins_read_iff _).mpr joins'
    exact .after left right (same.failAlike.bind _ _)
  · intro joins joins' filters filters' same
    obtain ⟨_, left⟩ := (joins_read_iff _).mpr joins
    obtain ⟨_, right⟩ := (joins_read_iff _).mpr joins'
    obtain ⟨_, left'⟩ := (filters_read_iff _).mpr filters
    obtain ⟨_, right'⟩ := (filters_read_iff _).mpr filters'
    exact .after left right (.after left' right' (same.failAlike.bind _ _))

end Reading

/-- An object with faults of its own behind the fields that are read first. -/
def albumsWith (joins columns order page : Value) : Fields :=
  [("page", page), ("orderBy", order), ("columns", columns), ("join", joins),
    ("table", .string "albums")]

def unpairedArtists : Value := .object [("table", .string "artists")]

def albumsNamed : Value := .object [("name", .string "a")]

theorem unpairedArtists_refused : ¬ IsJoin unpairedArtists := by
  rintro ⟨_, ⟨⟩, object⟩
  obtain ⟨_, found, _⟩ := object.on
  cases found

theorem albumsNamed_isFilter : IsFilter albumsNamed := by
  refine ⟨_, rfl, ?_, ?_⟩
  · intro p member _
    cases List.mem_singleton.mp member
    exact .scalar (.string "a")
  · rintro v ⟨⟩

theorem true_refused : ¬ Comparand (.bool true) := by
  rintro ⟨⟨⟩⟩

theorem upward_refused : ¬ IsDirection (.string "up") := by
  rintro ⟨_, ⟨⟩, asc | desc⟩
  · exact absurd asc (by decide)
  · exact absurd desc (by decide)

open Runtime.Usual in
theorem albums_refused_alike :
    FailAlike
      (normalize (.object (albumsWith (.list [unpairedArtists, .int 5]) (.int 1) .null (.int 0))))
      (normalize (.object (albumsWith (.list [unpairedArtists]) .null (.bool true) (.int 1)))) ∧
    FailAlike
      (normalize (.object (albumsWith .null (.list [albumsNamed,
        .object [("equalityOperator", .string "LIKE"), ("year", .bool true), ("genre", .null)]])
        .null (.int 0))))
      (normalize (.object (albumsWith (.list []) (.list [albumsNamed,
        .object [("year", .bool true), ("equalityOperator", .string "~")], .null])
        (.bool true) (.int 1)))) ∧
    FailAlike
      (normalize (.object (albumsWith .null albumsNamed
        (.object [("name", .string "asc"), ("year", .string "up"), ("id", .null)]) (.int 0))))
      (normalize (.object (albumsWith (.bool false) (.string "")
        (.list [.object [("name", .string "asc")], .object [("year", .string "up")]])
        (.int 1)))) := by
  have nothing {P : Fields → Prop} {v : Value} (empty : v.isEmpty = true) : Listed P v :=
    .nothing empty
  refine ⟨?_, ?_, ?_⟩
  · refine (refused_at_first_fault rfl rfl).1 (.list ?_)
    exact .of_append [] unpairedArtists [.int 5] [] nofun unpairedArtists_refused
  · refine (refused_at_first_fault rfl rfl).2.1 (nothing rfl) (nothing rfl) (.list ?_)
    refine .left albumsNamed_isFilter (.right albumsNamed_isFilter (.here (.columns ?_) _ _))
    exact .of_append [] ("year", Value.bool true) [("genre", .null)] [] nofun true_refused
  · obtain ⟨_, ⟨⟩, named⟩ := albumsNamed_isFilter
    refine (refused_at_first_fault rfl rfl).2.2 (nothing rfl) (nothing rfl) (.single named)
      (nothing rfl) (.entries (.single _) (.list [_, _]) ?_)
    refine .of_append [("name", Value.string "asc")] ("year", .string "up") [("id", .null)] [] ?_
      upward_refused
    intro p member
    cases List.mem_singleton.mp member
    exact ⟨"asc", rfl, .inl (by decide)⟩

end Query
end PagedQuery
