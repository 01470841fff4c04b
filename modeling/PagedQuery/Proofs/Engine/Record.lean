import PagedQuery.Proofs.Engine.Operations

/-! Records of what goes through a link, and runs of operations on an engine. A recorded link
answers as the link itself does: forgetting the record of a run gives the run without one. -/
namespace PagedQuery

inductive Passage
  | sent (sql : String) (outcome : Except Failure Value)
  | closed (outcome : Except Failure Unit)

namespace Act

variable {σ α β : Type}

def noted (note : Except Failure α → Passage) (a : Act σ α) : Act (σ × List Passage) α := fun s =>
  match a s.1 with
  | .ok x t => .ok x (t, s.2 ++ [note (.ok x)])
  | .error f t => .error f (t, s.2 ++ [note (.error f)])

def leaves (a : Act σ α) (s : σ) : σ :=
  match a s with
  | .ok _ t => t
  | .error _ t => t

end Act

/-- A link that keeps a record, the first passage at the front. -/
def Link.recorded {σ : Type} (link : Link σ) : Link (σ × List Passage) where
  send sql := (link.send sql).noted (.sent sql)
  close := link.close.noted .closed

namespace Engine

variable {σ α β : Type}

/-- The second program is what is left of the first when the record is forgotten. -/
def Forgets (a : Act (Engine × (σ × List Passage)) α) (b : Act (Engine × σ) α) : Prop :=
  ∀ e s record, match a (e, (s, record)) with
    | .ok x t => b (e, s) = .ok x (t.1, t.2.1)
    | .error f t => b (e, s) = .error f (t.1, t.2.1)

namespace Forgets

variable {a : Act (Engine × (σ × List Passage)) α} {b : Act (Engine × σ) α}

theorem bind (first : Forgets a b) {f : α → Act (Engine × (σ × List Passage)) β}
    {g : α → Act (Engine × σ) β} (next : ∀ x, Forgets (f x) (g x)) :
    Forgets (a >>= f) (b >>= g) := by
  intro e s record
  have h := first e s record
  simp only [Act.bind_run]
  cases run : a (e, (s, record)) with
  | ok x t =>
    rw [run] at h
    simp only [h]
    exact next x t.1 t.2.1 t.2.2
  | error f t =>
    rw [run] at h
    simp only [h]

theorem discard (first : Forgets a b) : Forgets (discard a) (discard b) := by
  intro e s record
  have h := first e s record
  simp only [Functor.discard, Functor.mapConst, Function.comp, EStateM.map]
  cases run : a (e, (s, record)) with
  | ok x t =>
    rw [run] at h
    simp only [h]
  | error f t =>
    rw [run] at h
    simp only [h]

theorem rescue (first : Forgets a b) {f : Failure → Act (Engine × (σ × List Passage)) α}
    {g : Failure → Act (Engine × σ) α} (next : ∀ x, Forgets (f x) (g x)) :
    Forgets (a.rescue f) (b.rescue g) := by
  intro e s record
  have h := first e s record
  simp only [Act.rescue]
  cases run : a (e, (s, record)) with
  | ok x t =>
    rw [run] at h
    simp only [h]
  | error x t =>
    rw [run] at h
    simp only [h]
    exact next x t.1 t.2.1 t.2.2

theorem read {f : Engine → Act (Engine × (σ × List Passage)) α} {g : Engine → Act (Engine × σ) α}
    (next : ∀ e, Forgets (f e) (g e)) :
    Forgets (do let (e, _) ← get; f e) (do let (e, _) ← get; g e) := by
  intro e s record
  exact next e e s record

theorem pure (x : α) :
    Forgets (Pure.pure x : Act (Engine × (σ × List Passage)) α) (Pure.pure x) :=
  fun _ _ _ => rfl

theorem throw (f : Failure) :
    Forgets (MonadExcept.throw f : Act (Engine × (σ × List Passage)) α) (MonadExcept.throw f) :=
  fun _ _ _ => rfl

theorem update (f : Engine → Engine) : Forgets (σ := σ) (update f) (update f) :=
  fun _ _ _ => rfl

theorem ofExcept (r : Except Failure α) : Forgets (σ := σ) (Act.ofExcept r) (Act.ofExcept r) := by
  cases r with
  | ok x => exact pure x
  | error f => exact throw f

theorem ofFault (r : Except Fault α) : Forgets (σ := σ) (ofFault r) (ofFault r) := by
  cases r with
  | ok x => exact pure x
  | error f => exact throw (.fault f)

theorem noted (note : Except Failure α → Passage) (c : Act σ α) :
    Forgets (Act.second (c.noted note)) (Act.second c) := by
  intro e s record
  simp only [Act.second_run, Act.noted]
  cases c s <;> rfl

end Forgets

inductive Operation
  | execute
  | buildSql
  | calculateTotals
  | close
  | goToPage (n : Int)
deriving DecidableEq

variable (link : Link σ)

theorem fetch_forgets (sql : String) : Forgets (fetch link.recorded sql) (fetch link sql) :=
  .bind (.noted _ _) fun _ => .read fun _ => .ofExcept _

theorem execute_forgets : Forgets (execute link.recorded) (execute link) :=
  .read fun _ => .bind (fetch_forgets link _) fun _ => .update _

theorem close_forgets : Forgets (close link.recorded) (close link) := by
  apply Forgets.read
  intro e
  split
  · exact .noted _ _
  · exact .pure _

variable [Runtime]

def Operation.run : Operation → Act (Engine × σ) Unit
  | execute => Engine.execute link
  | buildSql => do let _ ← Engine.buildSql; pure ()
  | calculateTotals => Engine.calculateTotals link
  | close => Engine.close link
  | goToPage n => Engine.goToPage link (.whole n)

def perform (ops : List Operation) (s : Engine × σ) : Engine × σ :=
  ops.foldl (fun s op => (op.run link).leaves s) s

theorem buildSql_forgets : Forgets (σ := σ) buildSql buildSql :=
  .read fun _ => .bind (.ofFault _) fun _ => .bind (.update _) fun _ => .pure _

theorem calculateTotals_forgets :
    Forgets (calculateTotals link.recorded) (calculateTotals link) := by
  apply Forgets.read
  intro e
  split
  · exact .update _
  · exact .bind (.ofFault _) fun _ => .bind (.noted _ _) fun _ => .bind (.ofFault _) fun _ =>
      .bind (.update _) fun _ =>
      .bind (.ofFault _) fun _ => .bind (.update _) fun _ => .discard (.ofFault _)

theorem goToPage_forgets (page : Number) :
    Forgets (goToPage link.recorded page) (goToPage link page) := by
  apply Forgets.read
  intro e
  split
  · exact .pure _
  · dsimp only
    split
    · exact .pure _
    · exact .read fun _ => .bind (.ofFault _) fun _ => .bind (fetch_forgets link _) fun _ =>
        .update _

theorem start_forgets : Forgets (start link.recorded) (start link) :=
  .bind (.rescue (.bind (execute_forgets link) fun _ => calculateTotals_forgets link) fun _ =>
    .bind (close_forgets link) fun _ => .throw _) fun _ => .update _

theorem run_forgets (op : Operation) : Forgets (op.run link.recorded) (op.run link) := by
  cases op with
  | execute => exact execute_forgets link
  | buildSql => exact .bind buildSql_forgets fun _ => .pure ()
  | calculateTotals => exact calculateTotals_forgets link
  | close => exact close_forgets link
  | goToPage n => exact goToPage_forgets link (.whole n)

theorem perform_forgets (ops : List Operation) (e : Engine) (s : σ) (record : List Passage) :
    perform link ops (e, s) =
      ((perform link.recorded ops (e, (s, record))).1,
        (perform link.recorded ops (e, (s, record))).2.1) := by
  induction ops generalizing e s record with
  | nil => rfl
  | cons op ops ih =>
    have h := run_forgets link op e s record
    simp only [perform, List.foldl_cons, Act.leaves] at ih ⊢
    cases run : op.run link.recorded (e, (s, record)) with
    | ok _ t =>
      rw [run] at h
      simp only [h]
      exact ih t.1 t.2.1 t.2.2
    | error _ t =>
      rw [run] at h
      simp only [h]
      exact ih t.1 t.2.1 t.2.2

end Engine
end PagedQuery
