import PagedQuery.Proofs.Sql.Literal

/-! Clauses that can be read back. The tables and columns of a plain query are words, so that every
clause ends where the next one begins. -/
namespace PagedQuery

namespace Sql

def isWordChar (c : Char) : Bool := c.isAlphanum || c == '_'

def isNameChar (c : Char) : Bool := isWordChar c || c == '.'

def IsWord (s : String) : Prop := s ≠ "" ∧ ∀ c ∈ s.toList, isWordChar c = true

def IsColumn (s : String) : Prop := s ≠ "" ∧ ∀ c ∈ s.toList, isNameChar c = true

theorem isWord_of_all {s : String} (nonempty : s ≠ "") (chars : s.toList.all isWordChar = true) :
    IsWord s :=
  ⟨nonempty, List.all_eq_true.mp chars⟩

theorem isColumn_of_all {s : String} (nonempty : s ≠ "")
    (chars : s.toList.all isNameChar = true) : IsColumn s :=
  ⟨nonempty, List.all_eq_true.mp chars⟩

theorem readable_word : Readable IsWord String.toList (Ends isWordChar) :=
  (readable_span isWordChar).weaken (fun _ word => word.2) fun _ ends => ends

theorem readable_column : Readable IsColumn String.toList (Ends isNameChar) :=
  (readable_span isNameChar).weaken (fun _ column => column.2) fun _ ends => ends

theorem readable_operator :
    Readable (fun _ => True) (fun op : Operator => (Keyword.text op).toList) (fun _ => True) :=
  readable_code fun a b => by cases a <;> cases b <;> decide

theorem readable_joinKind :
    Readable (fun _ => True) (fun kind : JoinKind => (Keyword.text kind).toList) (fun _ => True) :=
  readable_code fun a b => by cases a <;> cases b <;> decide

theorem readable_direction :
    Readable (fun _ => True) (fun dir : Direction => (Keyword.text dir).toList) (fun _ => True) :=
  readable_code fun a b => by cases a <;> cases b <;> decide

/-- How the clauses behind the joins open, in their order. -/
def limitWords : List String := [" OFFSET "]
def orderWords : List String := " LIMIT " :: limitWords
def whereWords : List String := " ORDER BY " :: orderWords
def joinWords : List String := " WHERE " :: whereWords
def joinKinds : List String := [" LEFT JOIN ", " INNER JOIN ", " CROSS JOIN "]

section Joins

variable (table pre : List Char)

def pairText (joined : List Char) (p : String × Operator × String) : List Char :=
  (" ON ".toList ++ table ++ ['.']) ++ (p.1.toList ++ ([' '] ++
    ((Keyword.text p.2.1).toList ++ (([' '] ++ joined ++ ['.']) ++ p.2.2.toList))))

theorem readable_pair (joined : List Char) :
    Readable (fun p => IsColumn p.1 ∧ True ∧ IsColumn p.2.2) (pairText table joined)
      (Ends isNameChar) := by
  have right := readable_column.lead ([' '] ++ joined ++ ['.'])
  have compared := (readable_operator.seq (fun _ _ => right) (fun _ _ _ _ _ => trivial)).lead [' ']
  exact (readable_column.seq (fun _ _ => compared) (fun _ _ k _ _ => .of_cons rfl _)).lead _

theorem pairText_opens (joined : List Char) (p : String × Operator × String) :
    ∃ w ∈ [" ON "], w.toList <+: pairText table joined p := by
  refine ⟨" ON ", List.mem_singleton_self _, ?_⟩
  rw [pairText, List.append_assoc, List.append_assoc]
  exact List.prefix_append _ _

abbrev JoinView := JoinKind × String × List (String × Operator × String)

def joinText (v : JoinView) : List Char :=
  [' '] ++ ((Keyword.text v.1).toList ++ (([' '] ++ pre) ++
    (v.2.1.toList ++ v.2.2.flatMap (pairText table (pre ++ v.2.1.toList)))))

def PlainJoin (v : JoinView) : Prop :=
  True ∧ IsWord v.2.1 ∧ ∀ p ∈ v.2.2, IsColumn p.1 ∧ True ∧ IsColumn p.2.2

theorem readable_join :
    Readable PlainJoin (joinText table pre) (Follows (joinKinds ++ joinWords)) := by
  have pairs (joined : List Char) := (readable_pair table joined).many
    (joinKinds ++ joinWords) (fun p _ => pairText_opens table joined p) (by decide)
    (by decide) fun k follows => follows.ends (by decide)
  -- the lines of a join repeat its table, so they are read with the table in hand
  have named := readable_word.seq (fun name _ => pairs (pre ++ name.toList))
    fun name ps k inPs follows => (follows.flatMap fun p _ => pairText_opens table _ p).ends
      (by decide)
  exact (readable_joinKind.seq (fun _ _ => named.lead ([' '] ++ pre))
    fun _ _ _ _ _ => trivial).lead [' ']

theorem joinText_opens (v : JoinView) :
    ∃ w ∈ joinKinds, w.toList <+: joinText table pre v := by
  obtain ⟨w, member, same⟩ : ∃ w ∈ joinKinds,
      w.toList = [' '] ++ ((Keyword.text v.1).toList ++ [' ']) := by
    cases v.1
    · exact ⟨" LEFT JOIN ", by decide, rfl⟩
    · exact ⟨" INNER JOIN ", by decide, rfl⟩
    · exact ⟨" CROSS JOIN ", by decide, rfl⟩
  refine ⟨w, member, ?_⟩
  simp only [same, joinText, List.append_assoc]
  exact ⟨_, by simp only [List.append_assoc]; rfl⟩

theorem readable_joins :
    Readable (fun vs : List JoinView => ∀ v ∈ vs, PlainJoin v)
      (fun vs => vs.flatMap (joinText table pre))
      (Follows joinWords) :=
  (readable_join table pre).many _ (fun v _ => joinText_opens table pre v) (by decide) (by decide)
    fun _ follows => follows

end Joins

section Predicates

def predicateText (column : String → String) (p : Predicate) : List Char :=
  (column p.column).toList ++ ([' '] ++ ((Keyword.text p.operator).toList ++ ([' '] ++
    (plainLiteral p.value).toList)))

def PlainPredicate (p : Predicate) : Prop := IsColumn p.column ∧ True ∧ PlainValue p.value

theorem readable_predicate {column : String → String}
    (columns : Readable IsColumn (fun c => (column c).toList) (Ends isNameChar)) :
    Readable PlainPredicate (predicateText column) (Ends isNumeral) := by
  have compared := (readable_operator.seq (fun _ _ => readable_literal.lead [' '])
    (fun _ _ _ _ _ => trivial)).lead [' ']
  have all := columns.seq (fun _ _ => compared) (fun _ _ k _ _ => .of_cons rfl _)
  exact all.comap (f := fun p : Predicate => (p.column, p.operator, p.value)) (fun _ plain => plain)
    (fun _ => rfl) fun ⟨_, _, _⟩ ⟨_, _, _⟩ same => by cases same; rfl

/-- Predicates by the first of them and the further ones, each with the word in front of it. -/
abbrev WhereView := Predicate × List (Connective × Predicate)

def connectedText (column : String → String) (v : Connective × Predicate) : List Char :=
  [' '] ++ ((Keyword.text v.1).toList ++ ([' '] ++ predicateText column v.2))

def whereText (column : String → String) (v : WhereView) : List Char :=
  " WHERE ".toList ++ (predicateText column v.1 ++ v.2.flatMap (connectedText column))

theorem whereText_some (column : String → String) (p : Predicate)
    (more : List (Connective × Predicate)) :
    whereText column (p, more) =
      " WHERE ".toList ++ (predicateText column p ++ more.flatMap (connectedText column)) := rfl

theorem whereText_opens (column : String → String) (v : WhereView) :
    " WHERE ".toList <+: whereText column v :=
  List.prefix_append _ _

def connectives : List String := [" AND ", " OR "]

theorem connectedText_opens (column : String → String) (v : Connective × Predicate) :
    ∃ w ∈ connectives, w.toList <+: connectedText column v := by
  obtain ⟨w, member, same⟩ : ∃ w ∈ connectives,
      w.toList = [' '] ++ ((Keyword.text v.1).toList ++ [' ']) := by
    cases v.1
    · exact ⟨" AND ", by decide, rfl⟩
    · exact ⟨" OR ", by decide, rfl⟩
  refine ⟨w, member, predicateText column v.2, ?_⟩
  simp only [same, connectedText, List.append_assoc]

theorem readable_connective :
    Readable (fun _ => True) (fun c : Connective => (Keyword.text c).toList ++ [' '])
      (fun _ => True) :=
  readable_code fun a b => by cases a <;> cases b <;> decide

def PlainWhere (v : WhereView) : Prop :=
  PlainPredicate v.1 ∧ ∀ p ∈ v.2, True ∧ PlainPredicate p.2

theorem readable_where {column : String → String}
    (columns : Readable IsColumn (fun c => (column c).toList) (Ends isNameChar)) :
    Readable PlainWhere (whereText column) (Follows whereWords) := by
  have predicate := readable_predicate columns
  have connected : Readable (fun v => True ∧ PlainPredicate v.2) (connectedText column)
      (Ends isNumeral) :=
    ((readable_connective.seq (fun _ _ => predicate) (fun _ _ _ _ _ => trivial)).lead
      [' ']).comap (f := id) (fun _ plain => plain)
      (fun v => by simp [connectedText]) fun _ _ same => same
  have more := connected.many whereWords (fun v _ => connectedText_opens column v)
    (by decide) (by decide) fun k follows => follows.ends (by decide)
  exact (predicate.seq (fun _ _ => more) fun _ _ _ _ follows =>
    (follows.flatMap fun v _ => connectedText_opens column v).ends (by decide)).lead _

end Predicates

section Order

def termText (t : SortTerm) : List Char :=
  t.column.toList ++ (" COLLATE NOCASE ".toList ++ (Keyword.text t.direction).toList)

theorem readable_term :
    Readable (fun t => IsColumn t.column ∧ True) termText (fun _ => True) := by
  have all := readable_column.seq
    (fun _ _ => readable_direction.lead " COLLATE NOCASE ".toList)
    (fun _ _ k _ _ => .of_cons (c := ' ') rfl _)
  exact all.comap (f := fun t : SortTerm => (t.column, t.direction)) (fun _ plain => plain)
    (fun _ => rfl) fun ⟨_, _⟩ ⟨_, _⟩ same => by cases same; rfl

def orderText (d : Dialect) : Order → List Char
  | .random => " ORDER BY ".toList ++ d.target.randomCall.toList
  | .by [] => []
  | .by (t :: ts) =>
    " ORDER BY ".toList ++ (termText t ++ ts.flatMap fun u => ", ".toList ++ termText u)

theorem orderText_random (d : Dialect) :
    orderText d .random = " ORDER BY ".toList ++ d.target.randomCall.toList := rfl

theorem orderText_by (d : Dialect) (t : SortTerm) (ts : List SortTerm) :
    orderText d (.by (t :: ts)) =
      " ORDER BY ".toList ++ (termText t ++ ts.flatMap fun u => ", ".toList ++ termText u) := rfl

def PlainOrder : Order → Prop
  | .random => True
  | .by terms => terms ≠ [] ∧ ∀ t ∈ terms, IsColumn t.column

theorem orderText_opens (d : Dialect) (order : Order) (plain : PlainOrder order) :
    " ORDER BY ".toList <+: orderText d order := by
  cases order with
  | random => exact List.prefix_append _ _
  | «by» terms =>
    cases terms with
    | nil => exact absurd rfl plain.1
    | cons t ts => exact List.prefix_append _ _

theorem randomCall_ne_term (d : Dialect) {t : SortTerm} (plain : IsColumn t.column)
    (k l : List Char) : d.target.randomCall.toList ++ k ≠ termText t ++ l := by
  obtain ⟨word, chars, called⟩ : ∃ word : String, word.toList.all isNameChar = true ∧
      d.target.randomCall.toList = word.toList ++ ['(', ')'] := by
    cases d.target
    · exact ⟨"RANDOM", by decide, rfl⟩
    · exact ⟨"RANDOM", by decide, rfl⟩
    · exact ⟨"RANDOM", by decide, rfl⟩
    · exact ⟨"RAND", by decide, rfl⟩
    · exact ⟨"NEWID", by decide, rfl⟩
  intro same
  rw [called, termText, List.append_assoc, List.append_assoc] at same
  -- the call is a word too, but a column has no parenthesis behind it
  obtain ⟨_, after⟩ := readable_span isNameChar (List.all_eq_true.mp chars) plain.2 (.of_cons rfl _)
    (.of_cons (c := ' ') rfl _) same
  exact absurd (List.cons.inj after).1 (by decide)

theorem readable_order (d : Dialect) :
    Readable PlainOrder (orderText d) (Follows orderWords) := by
  have term : Readable (fun t => IsColumn t.column) termText (fun _ => True) :=
    readable_term.weaken (fun _ column => ⟨column, trivial⟩) fun _ ends => ends
  have terms := (term.separated ", " orderWords (by decide) (by decide) fun _ _ => trivial).lead
    " ORDER BY ".toList
  intro a b k l plainA plainB endsK endsL same
  cases a with
  | random =>
    cases b with
    | random => exact ⟨rfl, List.append_cancel_left same⟩
    | «by» us =>
      cases us with
      | nil => exact absurd rfl plainB.1
      | cons u us =>
        simp only [orderText_random, orderText_by, List.append_assoc] at same
        have behind := List.append_cancel_left same
        exact absurd behind (randomCall_ne_term d (plainB.2 u List.mem_cons_self) k _)
  | «by» ts =>
    cases ts with
    | nil => exact absurd rfl plainA.1
    | cons t ts =>
      cases b with
      | random =>
        simp only [orderText_random, orderText_by, List.append_assoc] at same
        have behind := List.append_cancel_left same
        exact absurd behind.symm (randomCall_ne_term d (plainA.2 t List.mem_cons_self) l _)
      | «by» us =>
        cases us with
        | nil => exact absurd rfl plainB.1
        | cons u us =>
          obtain ⟨equal, after⟩ := @terms (t, ts) (u, us) k l
            (List.forall_mem_cons.mp plainA.2) (List.forall_mem_cons.mp plainB.2) endsK endsL same
          cases equal
          exact ⟨rfl, after⟩

end Order

def numberClause (word : String) (n : Int) : List Char :=
  word.toList ++ (Number.intText n).toList

theorem numberClause_opens (word : String) (n : Int) : word.toList <+: numberClause word n :=
  List.prefix_append _ _

/-- Whether such a clause is there can be told too, unless its word may follow anyway. -/
theorem readable_numberClause (word : String) (words : List String) (proper : word.toList ≠ [])
    (apart : ∀ v ∈ words, Apart word v)
    (outside : ∀ w ∈ words, (w.toList.head?.any fun c => !isNumeral c) = true) :
    Readable (fun o : Option Int => ∀ n ∈ o, True) (fun o => o.elim [] (numberClause word))
      (Follows words) := by
  have present : Readable (fun _ => True) (numberClause word) (Follows words) :=
    (readable_int.lead word.toList).weaken (fun _ all => all) fun _ follows => follows.ends outside
  exact present.optional (fun n _ => numberClause_opens word n) proper apart

end Sql

open Sql

structure Query.Plain (q : Query) : Prop where
  tablePrefix : ∀ c ∈ q.tablePrefix.toList, isWordChar c = true
  table : IsWord q.table
  joins : ∀ j ∈ q.joins, IsWord j.table ∧ ∀ p ∈ j.on, IsColumn p.1 ∧ IsColumn p.2
  predicates : ∀ p ∈ q.predicates, IsColumn p.column ∧ PlainValue p.value
  terms : ∀ terms, q.order = some (.by terms) → ∀ t ∈ terms, IsColumn t.column

end PagedQuery
