import Mathlib.Logic.Relation
import PagedQuery.Proofs.Sql.Statement

/-! The filters of a query as one sequence of comparisons. How the comparisons are grouped, and
whether an operator stands on a group or is taken over from the query, leaves no trace in the
WHERE clause: two lists of filters compare alike exactly if one can be regrouped into the other. -/
namespace PagedQuery

/-- The comparisons of one filter. Where it has no operator, the inherited one counts. -/
def Filter.predicates (inherited : Operator) (f : Filter) : List Predicate :=
  f.columns.map fun p => ⟨p.1, f.operator.getD inherited, p.2⟩

inductive Regrouping (inherited : Operator) : List Filter → List Filter → Prop
  | empty (before after : List Filter) (operator : Option Operator) :
    Regrouping inherited (before ++ after) (before ++ ⟨[], operator⟩ :: after)
  | divided (before after : List Filter) (first second : Fields) (operator : Option Operator) :
    Regrouping inherited (before ++ ⟨first ++ second, operator⟩ :: after)
      (before ++ ⟨first, operator⟩ :: ⟨second, operator⟩ :: after)
  | spelled (before after : List Filter) (columns : Fields) :
    Regrouping inherited (before ++ ⟨columns, none⟩ :: after)
      (before ++ ⟨columns, some inherited⟩ :: after)

def Regrouped (inherited : Operator) : List Filter → List Filter → Prop :=
  Relation.EqvGen (Regrouping inherited)

def Predicate.alone (p : Predicate) : Filter := ⟨[(p.column, p.value)], some p.operator⟩

section Regrouping

variable {inherited : Operator} {fs gs : List Filter}

theorem Regrouping.predicates (change : Regrouping inherited fs gs) :
    fs.flatMap (Filter.predicates inherited) = gs.flatMap (Filter.predicates inherited) := by
  cases change with
  | empty before after operator => simp [Filter.predicates]
  | divided before after first second operator => simp [Filter.predicates]
  | spelled before after columns => simp [Filter.predicates]

theorem Regrouped.predicates (regrouped : Regrouped inherited fs gs) :
    fs.flatMap (Filter.predicates inherited) = gs.flatMap (Filter.predicates inherited) := by
  induction regrouped with
  | rel _ _ change => exact change.predicates
  | refl _ => rfl
  | symm _ _ _ ih => exact ih.symm
  | trans _ _ _ _ _ first second => exact first.trans second

theorem Regrouping.cons (f : Filter) (change : Regrouping inherited fs gs) :
    Regrouping inherited (f :: fs) (f :: gs) := by
  cases change with
  | empty before after operator => exact .empty (f :: before) after operator
  | divided before after first second operator =>
    exact .divided (f :: before) after first second operator
  | spelled before after columns => exact .spelled (f :: before) after columns

theorem Regrouped.cons (f : Filter) (regrouped : Regrouped inherited fs gs) :
    Regrouped inherited (f :: fs) (f :: gs) := by
  induction regrouped with
  | rel _ _ change => exact .rel _ _ (change.cons f)
  | refl fs => exact .refl (f :: fs)
  | symm _ _ _ ih => exact .symm _ _ ih
  | trans _ _ _ _ _ first second => exact .trans _ _ _ first second

theorem Regrouped.append (before : List Filter) (regrouped : Regrouped inherited fs gs) :
    Regrouped inherited (before ++ fs) (before ++ gs) := by
  induction before with
  | nil => exact regrouped
  | cons f before ih => exact ih.cons f

theorem regrouped_columns (inherited operator : Operator) (columns : Fields) (after : List Filter) :
    Regrouped inherited (⟨columns, some operator⟩ :: after)
      ((columns.map fun p => Predicate.alone ⟨p.1, operator, p.2⟩) ++ after) := by
  induction columns with
  | nil => exact .symm _ _ (.rel _ _ (.empty [] after (some operator)))
  | cons p columns ih =>
    have divided : Regrouped inherited (⟨p :: columns, some operator⟩ :: after)
        (⟨[p], some operator⟩ :: ⟨columns, some operator⟩ :: after) :=
      .rel _ _ (.divided [] after [p] columns (some operator))
    exact .trans _ _ _ divided (ih.cons _)

theorem regrouped_spelled (f : Filter) (after : List Filter) :
    Regrouped inherited (f :: after) (⟨f.columns, some (f.operator.getD inherited)⟩ :: after) := by
  obtain ⟨columns, operator⟩ := f
  cases operator with
  | none => exact .rel _ _ (.spelled [] after columns)
  | some operator => exact .refl _

/-- Every list of filters can be regrouped into its comparisons, each alone. -/
theorem regrouped_alone (inherited : Operator) (fs : List Filter) :
    Regrouped inherited fs ((fs.flatMap (Filter.predicates inherited)).map Predicate.alone) := by
  induction fs with
  | nil => exact .refl []
  | cons f fs ih =>
    have divided := regrouped_columns inherited (f.operator.getD inherited) f.columns fs
    have first := Relation.EqvGen.trans _ _ _ (regrouped_spelled f fs) divided
    rw [List.flatMap_cons, List.map_append, Filter.predicates, List.map_map]
    exact .trans _ _ _ first (ih.append _)

theorem predicates_eq_iff_regrouped :
    fs.flatMap (Filter.predicates inherited) = gs.flatMap (Filter.predicates inherited) ↔
      Regrouped inherited fs gs := by
  constructor
  · intro same
    have there := regrouped_alone inherited fs
    rw [same] at there
    exact .trans _ _ _ there (.symm _ _ (regrouped_alone inherited gs))
  · exact Regrouped.predicates

end Regrouping

def Connective.between : Connective → String
  | .and => " AND "
  | .or => " OR "

theorem Connective.between_eq (c : Connective) : " " ++ Keyword.text c ++ " " = c.between := by
  cases c <;> rfl

namespace Sql

theorem joinWith_cons (sep s : String) (rest : List String) :
    joinWith sep (s :: rest) = s ++ String.join (rest.map fun t => sep ++ t) := by
  rw [← String.toList_inj, joinWith_toList]
  simp [String.toList_join, List.flatMap_map]

theorem joinWith_append {sep : String} {ss ts : List String} (some : ss ≠ []) (more : ts ≠ []) :
    joinWith sep (ss ++ ts) = joinWith sep ss ++ sep ++ joinWith sep ts := by
  cases ss with
  | nil => exact absurd rfl some
  | cons s ss =>
    cases ts with
    | nil => exact absurd rfl more
    | cons t ts =>
      rw [List.cons_append, joinWith_cons, joinWith_cons, joinWith_cons]
      simp [String.append_assoc]

end Sql

def Value.HasLiteral [Runtime] : Value → Prop
  | .list items => ∀ item ∈ items, item.HasText
  | v => v.HasText

theorem Sql.listItem_exists_iff [Runtime] {v : Value} :
    (∃ text, listItem v = .ok text) ↔ v.HasText := by
  cases v with
  | string s => exact ⟨fun _ => .string s, fun _ => ⟨_, rfl⟩⟩
  | _ => simp only [listItem, Value.text_exists_iff]

theorem Sql.literal_exists_iff [Runtime] {v : Value} :
    (∃ text, literal v = .ok text) ↔ v.HasLiteral := by
  cases v with
  | string s => exact ⟨fun _ => .string s, fun _ => ⟨_, rfl⟩⟩
  | list items =>
    rw [literal_list, Except.map_exists_iff, Except.mapM_exists_iff]
    simp only [Value.HasLiteral, listItem_exists_iff]
  | _ => simp only [literal, Value.text_exists_iff, Value.HasLiteral]

namespace Query

open Sql

theorem predicates_eq_nil_iff (q : Query) :
    q.predicates = [] ↔ ∀ f ∈ q.filters, f.columns = [] := by
  simp [predicates]

theorem predicates_ne_nil {q : Query} (compares : ∃ f ∈ q.filters, f.columns ≠ []) :
    q.predicates ≠ [] := by
  obtain ⟨f, member, nonempty⟩ := compares
  exact fun none => nonempty (q.predicates_eq_nil_iff.mp none f member)

variable [Runtime]

/-- The comparisons as they stand in the clause, without its first word. -/
def conditions (q : Query) : Except Fault String :=
  (q.predicates.mapM q.predicateText).map (joinWith q.connective.between)

theorem whereClause_present {q : Query} (compares : q.predicates ≠ []) :
    q.whereClause = q.conditions.map ("WHERE " ++ ·) := by
  rw [whereClause, if_neg (by simpa using compares), q.connective.between_eq, conditions]
  cases q.predicates.mapM q.predicateText <;> rfl

theorem whereClause_absent {q : Query} (none : q.predicates = []) : q.whereClause = .ok "" := by
  rw [whereClause, none, List.isEmpty_nil, if_pos rfl]

theorem whereClause_congr {q t : Query} (tablePrefix : t.tablePrefix = q.tablePrefix)
    (connective : t.connective = q.connective) (predicates : t.predicates = q.predicates) :
    t.whereClause = q.whereClause := by
  have texts : t.predicateText = q.predicateText := by
    funext p
    simp only [predicateText, columnText, tablePrefix]
  rw [whereClause, whereClause, connective, predicates, texts]

theorem predicateText_exists_iff {q : Query} {p : Predicate} :
    (∃ text, q.predicateText p = .ok text) ↔ p.value.HasLiteral := by
  rw [predicateText_eq, Except.map_exists_iff, literal_exists_iff]

theorem whereClause_exists_iff {q : Query} :
    (∃ text, q.whereClause = .ok text) ↔ ∀ p ∈ q.predicates, p.value.HasLiteral := by
  by_cases none : q.predicates = []
  · simp only [whereClause_absent none, none, List.not_mem_nil, false_implies, implies_true,
      iff_true]
    exact ⟨"", rfl⟩
  · rw [whereClause_present none, Except.map_exists_iff, conditions, Except.map_exists_iff,
      Except.mapM_exists_iff]
    simp only [predicateText_exists_iff]

theorem conditions_append (q : Query) {fs gs : List Filter}
    (first : { q with filters := fs }.predicates ≠ [])
    (second : { q with filters := gs }.predicates ≠ []) :
    { q with filters := fs ++ gs }.conditions = (do
      let before ← conditions { q with filters := fs }
      let after ← conditions { q with filters := gs }
      pure (before ++ q.connective.between ++ after)) := by
  have together : { q with filters := fs ++ gs }.predicates =
      { q with filters := fs }.predicates ++ { q with filters := gs }.predicates := by
    simp [predicates]
  have texts (hs : List Filter) : { q with filters := hs }.conditions =
      ({ q with filters := hs }.predicates.mapM q.predicateText).map
        (joinWith q.connective.between) := rfl
  have nonempty {ps : List Predicate} {ts : List String} (some : ps ≠ [])
      (written : ps.mapM q.predicateText = .ok ts) : ts ≠ [] := by
    rintro rfl
    exact some (List.forall₂_nil_right_iff.mp (Except.mapM_ok_iff.mp written))
  rw [texts, texts, texts, together, List.mapM_append]
  cases before : { q with filters := fs }.predicates.mapM q.predicateText with
  | error f => rfl
  | ok ss =>
    cases after : { q with filters := gs }.predicates.mapM q.predicateText with
    | error f => rfl
    | ok ts =>
      exact congrArg Except.ok (joinWith_append (nonempty first before) (nonempty second after))

/-- The clause depends on the prefix, the connective and the sequence of comparisons alone, so that
regrouped filters give the same clause or fail alike. It is empty exactly if nothing is compared,
and it fails exactly if a value has no text; the clause of two lists of filters is made from those
of each, and every comparison but the first follows one connective. -/
theorem whereClause_of_predicate_sequence (q : Query) :
    (∀ t : Query, t.tablePrefix = q.tablePrefix → t.connective = q.connective →
      t.predicates = q.predicates → t.whereClause = q.whereClause) ∧
    (∀ gs, Regrouped q.operator q.filters gs →
      { q with filters := gs }.whereClause = q.whereClause) ∧
    (∀ fs gs, (∃ f ∈ fs, f.columns ≠ []) → (∃ g ∈ gs, g.columns ≠ []) →
      ∃ rest : Except Fault String,
        { q with filters := gs }.whereClause = rest.map ("WHERE " ++ ·) ∧
        { q with filters := fs ++ gs }.whereClause = do
          let first ← whereClause { q with filters := fs }
          let second ← rest
          pure (first ++ q.connective.between ++ second)) ∧
    (q.whereClause = .ok "" ↔ ∀ f ∈ q.filters, f.columns = []) ∧
    (∀ p more, q.predicates = p :: more → q.whereClause = do
      let first ← q.predicateText p
      let further ← more.mapM q.predicateText
      pure ("WHERE " ++ first ++ String.join (further.map (q.connective.between ++ ·)))) ∧
    ((∃ text, q.whereClause = .ok text) ↔ ∀ p ∈ q.predicates, p.value.HasLiteral) := by
  refine ⟨fun t => whereClause_congr, ?_, ?_, ?_, ?_, whereClause_exists_iff⟩
  · intro gs regrouped
    exact whereClause_congr rfl rfl regrouped.predicates.symm
  · intro fs gs compares compares'
    have first : { q with filters := fs }.predicates ≠ [] := predicates_ne_nil compares
    have second : { q with filters := gs }.predicates ≠ [] := predicates_ne_nil compares'
    have both : { q with filters := fs ++ gs }.predicates ≠ [] := by
      obtain ⟨f, member, nonempty⟩ := compares
      exact predicates_ne_nil ⟨f, List.mem_append_left gs member, nonempty⟩
    refine ⟨{ q with filters := gs }.conditions, whereClause_present second, ?_⟩
    rw [whereClause_present both, whereClause_present first, conditions_append q first second]
    cases { q with filters := fs }.conditions <;> cases { q with filters := gs }.conditions <;>
      simp [bind, Except.bind, pure, Except.pure, Except.map, String.append_assoc]
  · rw [← predicates_eq_nil_iff]
    constructor
    · intro empty
      by_cases compares : q.predicates = []
      · exact compares
      · rw [whereClause_present compares] at empty
        obtain ⟨text, -, out⟩ := Except.map_ok_iff.mp empty
        rw [String.append_eq_empty_iff] at out
        exact absurd out.1 (by decide)
    · exact whereClause_absent
  · intro p more sequence
    have compares : q.predicates ≠ [] := by simp [sequence]
    rw [whereClause_present compares, conditions, sequence, List.mapM_cons]
    cases q.predicateText p with
    | error f => rfl
    | ok first =>
      cases more.mapM q.predicateText with
      | error f => rfl
      | ok further =>
        refine congrArg Except.ok ?_
        rw [joinWith_cons, String.append_assoc]

def likedTracks : Query where
  table := "tracks"
  tablePrefix := "server_"
  filters := [⟨[("name", .string "a"), ("artists.id", .int 3)], some .like⟩]
  connective := .or
  operator := .equal
  order := none
  joins := []
  pageSize := 100
  page := .whole 1
  mode := none

def scatteredTracks : Query :=
  { likedTracks with
    filters := [⟨[], some .noneOf⟩, ⟨[("name", .string "a")], none⟩, ⟨[], none⟩,
      ⟨[("artists.id", .int 3)], none⟩]
    operator := .like }

open Runtime.Usual in
theorem scattered_tracks_alike :
    scatteredTracks.predicates = likedTracks.predicates ∧
      scatteredTracks.whereClause = likedTracks.whereClause ∧
      likedTracks.whereClause = .ok "WHERE name LIKE 'a' OR server_artists.id LIKE 3" :=
  ⟨rfl, (whereClause_of_predicate_sequence likedTracks).1 scatteredTracks rfl rfl rfl,
    (whereClause_of_predicate_sequence likedTracks).2.2.2.2.1 ⟨"name", .like, .string "a"⟩
      [⟨"artists.id", .like, .int 3⟩] rfl⟩

end Query
end PagedQuery
