import PagedQuery.Proofs.Value.Writing
import PagedQuery.Session

/-! Inversion of readers: what is known of every part when the whole was read.
The laws of checked values keep all violations and are stated for valid results only. -/
namespace PagedQuery

namespace Checked

variable {α β : Type}

theorem map_valid_iff (f : α → β) (x : Checked α) (b : β) :
    f <$> x = valid b ↔ ∃ a, x = valid a ∧ f a = b := by
  cases x <;> simp [Functor.map, Checked.map]

theorem seq_valid_iff (f : Checked (α → β)) (x : Checked α) (b : β) :
    f <*> x = valid b ↔ ∃ g a, f = valid g ∧ x = valid a ∧ g a = b := by
  cases f <;> cases x <;> simp [Seq.seq, Checked.apply]

theorem andThen_valid_iff (x : Checked α) (f : α → Checked β) (b : β) :
    x.andThen f = valid b ↔ ∃ a, x = valid a ∧ f a = valid b := by
  cases x <;> simp [andThen]

@[simp] theorem fail_ne_valid (path : List Step) (rule : Rule) (a : α) :
    fail path rule ≠ valid a := by
  simp [fail]

end Checked

namespace Field

variable {α : Type} {path : List Step} {fields : Fields} {read : List Step → Value → Checked α}

theorem orElse_valid {names : List String} {default a : α}
    (accepted : orElse path fields names default read = .valid a) :
    a = default ∨ ∃ place v, read place v = .valid a := by
  unfold orElse at accepted
  split at accepted
  · exact .inr ⟨_, _, accepted⟩
  · cases accepted
    exact .inl rfl

theorem page_valid {v : Value} {n : Number} (accepted : page path v = .valid n) :
    ∃ i, 1 ≤ i ∧ n = .whole i := by
  simp only [page, Checked.andThen_valid_iff] at accepted
  obtain ⟨i, _, h⟩ := accepted
  split at h
  · rename_i positive
    cases h
    exact ⟨i, positive, rfl⟩
  · cases h

theorem pageSize_valid {v : Value} {n : Int} (accepted : pageSize path v = .valid n) :
    n = -1 ∨ 1 ≤ n := by
  simp only [pageSize, Checked.andThen_valid_iff] at accepted
  obtain ⟨i, _, h⟩ := accepted
  split at h
  · rename_i allowed
    cases h
    exact allowed
  · cases h

end Field

namespace Query

open Description

theorem assemble_valid_iff {path : List Step} {fields : Fields} {filters : Checked (List Filter)}
    {order : Checked (Option Order)} {joins : Checked (List Join)} {q : Query} :
    assemble path fields filters order joins = .valid q ↔
      Field.required path fields "table" Field.tableName = .valid q.table ∧
      Field.orElse path fields ["prefix"] "server_" Field.string = .valid q.tablePrefix ∧
      filters = .valid q.filters ∧
      Field.orElse path fields connectiveNames .and (Field.keyword Connective) =
        .valid q.connective ∧
      Field.orElse path fields operatorNames .equal (Field.keyword Operator) = .valid q.operator ∧
      order = .valid q.order ∧ joins = .valid q.joins ∧
      Field.orElse path fields pageSizeNames 100 Field.pageSize = .valid q.pageSize ∧
      Field.orElse path fields ["page"] (.whole 1) Field.page = .valid q.page ∧
      Field.orElse path fields ["mode"] none Field.optionalString = .valid q.mode := by
  simp only [assemble, Checked.seq_valid_iff, Checked.map_valid_iff]
  constructor
  · rintro ⟨_, m, ⟨_, pg, ⟨_, sz, ⟨_, js, ⟨_, o, ⟨_, op, ⟨_, c, ⟨_, fs, ⟨_, p, ⟨t, ht, rfl⟩,
      hp, rfl⟩, hf, rfl⟩, hc, rfl⟩, hop, rfl⟩, ho, rfl⟩, hj, rfl⟩, hs, rfl⟩, hpg, rfl⟩, hm, rfl⟩
    exact ⟨ht, hp, hf, hc, hop, ho, hj, hs, hpg, hm⟩
  · rintro ⟨ht, hp, hf, hc, hop, ho, hj, hs, hpg, hm⟩
    exact ⟨_, _, ⟨_, _, ⟨_, _, ⟨_, _, ⟨_, _, ⟨_, _, ⟨_, _, ⟨_, _, ⟨_, _, ⟨_, ht, rfl⟩, hp, rfl⟩,
      hf, rfl⟩, hc, rfl⟩, hop, rfl⟩, ho, rfl⟩, hj, rfl⟩, hs, rfl⟩, hpg, rfl⟩, hm, rfl⟩

structure Paged (q : Query) : Prop where
  page : ∃ p, 1 ≤ p ∧ q.page = .whole p
  pageSize : q.pageSize = -1 ∨ 1 ≤ q.pageSize

theorem assemble_paged {path : List Step} {fields : Fields} {filters : Checked (List Filter)}
    {order : Checked (Option Order)} {joins : Checked (List Join)} {q : Query}
    (accepted : assemble path fields filters order joins = .valid q) : Paged q := by
  obtain ⟨_, _, _, _, _, _, _, size, page, _⟩ := assemble_valid_iff.mp accepted
  constructor
  · rcases Field.orElse_valid page with h | ⟨_, _, h⟩
    · exact ⟨1, by decide, h⟩
    · exact Field.page_valid h
  · rcases Field.orElse_valid size with h | ⟨_, _, h⟩
    · exact .inr (by rw [h]; decide)
    · exact Field.pageSize_valid h

theorem read_paged {path : List Step} {v : Value} {q : Query}
    (accepted : read path v = .valid q) : Paged q := by
  simp only [read, Checked.andThen_valid_iff] at accepted
  obtain ⟨fields, _, assembled⟩ := accepted
  exact assemble_paged assembled

variable [Runtime]

theorem normalize_stages {fields : Fields} (table : (Entries.find? "table" fields).isSome = true) :
    normalize (.object fields) =
      joinsOf (valueAt fields "join") >>= fun joins =>
      filtersOf (valueAt fields "columns") >>= fun filters =>
      orderOf (orderValue fields) >>= fun order =>
      match assemble [] fields (.valid filters) (.valid order) (.valid joins) with
      | .valid q => .ok q
      | .invalid found => .error (.refused "Invalid query object" found) := by
  have present : ¬ (Entries.find? "table" fields).isNone = true := by
    rw [Bool.not_eq_true, Option.isNone_eq_false_iff]
    exact table
  exact if_neg present

theorem normalize_ok {v : Value} {q : Query} (accepted : normalize v = .ok q) :
    ∃ fields, v = .object fields ∧ joinsOf (valueAt fields "join") = .ok q.joins ∧
      filtersOf (valueAt fields "columns") = .ok q.filters ∧
      orderOf (orderValue fields) = .ok q.order ∧
      assemble [] fields (.valid q.filters) (.valid q.order) (.valid q.joins) = .valid q := by
  cases v with
  | object fields =>
    simp only [normalize] at accepted
    split at accepted
    · cases accepted
    · simp only [Except.bind_ok_iff] at accepted
      obtain ⟨joins, hj, filters, hf, order, ho, h⟩ := accepted
      split at h
      · rename_i q' assembled
        cases h
        obtain ⟨_, _, same, _, _, sameOrder, sameJoins, _⟩ := assemble_valid_iff.mp assembled
        cases same
        cases sameOrder
        cases sameJoins
        exact ⟨fields, rfl, hj, hf, ho, assembled⟩
      · cases h
  | _ => cases accepted

theorem orderOf_proper {v : Value} {order : Option Order} (read : orderOf v = .ok order) :
    order ≠ some (.by []) := by
  have ofEntries : ∀ entries, orderOfEntries entries = .ok order → order ≠ some (.by []) := by
    intro entries read
    unfold orderOfEntries at read
    split at read
    · cases read
      simp
    · rename_i nonempty
      simp only [Except.bind_ok_iff, Except.mapM_ok_iff] at read
      obtain ⟨terms, each, out⟩ := read
      cases out
      rintro ⟨⟩
      cases each
      exact nonempty rfl
  cases v with
  | null =>
    cases read
    simp
  | string s =>
    simp only [orderOf] at read
    split at read
    · cases read
      simp
    · cases read
  | object entries => exact ofEntries entries read
  | list items =>
    simp only [orderOf, Except.bind_ok_iff] at read
    obtain ⟨lists, _, read⟩ := read
    exact ofEntries _ read
  | _ => cases read

theorem normalize_proper {v : Value} {q : Query} (accepted : normalize v = .ok q) :
    q.order ≠ some (.by []) := by
  obtain ⟨_, _, _, _, read, _⟩ := normalize_ok accepted
  exact orderOf_proper read

theorem normalize_paged {v : Value} {q : Query} (accepted : normalize v = .ok q) : Paged q := by
  obtain ⟨_, _, _, _, _, assembled⟩ := normalize_ok accepted
  exact assemble_paged assembled

end Query

/-- Written by a caller or described in full form: what comes out can be paged. -/
theorem QuerySource.normalize_paged [Runtime] {source : QuerySource} {input : QueryInput}
    {q : Query} (understood : source.input = .ok input)
    (accepted : input.normalize = .ok q) : Query.Paged q := by
  cases source with
  | written v =>
    cases understood
    exact Query.normalize_paged accepted
  | described v =>
    simp only [QuerySource.input] at understood
    split at understood
    · rename_i q' described
      cases understood
      cases accepted
      exact Query.read_paged described
    · cases understood

end PagedQuery
