import PagedQuery.Proofs.Engine.Operations

/-! Programs as conversations with the world outside: the calls that they make in their order,
with what each was answered, and what they come to in the end. There is one rule for each way of
putting programs together. -/
namespace PagedQuery

structure Turn where
  call : Call
  outcome : Except Failure call.Answer

namespace Turn

def succeeded (u : Turn) : Bool := u.outcome.isOk

def event (u : Turn) : Event := ⟨u.call, u.succeeded⟩

@[simp] theorem succeeded_ok (c : Call) (answer : c.Answer) :
    (⟨c, .ok answer⟩ : Turn).succeeded = true := rfl

@[simp] theorem succeeded_error (c : Call) (f : Failure) :
    (⟨c, .error f⟩ : Turn).succeeded = false := rfl

end Turn

namespace Outside

variable {W : Type}

inductive Answers (o : Outside W) : W → List Turn → W → Prop
  | nil (w : W) : Answers o w [] w
  | cons {w w' w'' : W} {u : Turn} {turns : List Turn} (here : o.answer u.call w = (u.outcome, w'))
    (later : Answers o w' turns w'') : Answers o w (u :: turns) w''

theorem Answers.append {o : Outside W} {w w' w'' : W} {first second : List Turn}
    (early : o.Answers w first w') (late : o.Answers w' second w'') :
    o.Answers w (first ++ second) w'' := by
  induction early with
  | nil w => exact late
  | cons here _ ih => exact .cons here (ih late)

variable {σ τ υ α β : Type}

structure Settles (o : Outside W) (view : σ → Exchange W) (a : Act σ α) (s : σ)
    (result : Except Failure α) (turns : List Turn) (s' : σ) : Prop where
  run : a s = Act.settled result s'
  noted : (view s').log = (view s).log ++ turns.map Turn.event
  answered : o.Answers (view s).world turns (view s').world

namespace Settles

variable {o : Outside W} {view : σ → Exchange W} {s s' s'' : σ} {turns more : List Turn}

theorem call (o : Outside W) (c : Call) (x : Exchange W) :
    ∃ outcome y, o.Settles id (o.call c) x outcome [⟨c, outcome⟩] y := by
  cases said : o.answer c x.world with
  | mk outcome w =>
    refine ⟨outcome, ⟨w, x.log ++ [⟨c, outcome.isOk⟩]⟩, ?_, rfl, .cons said (.nil w)⟩
    rw [Outside.call, said]
    cases outcome <;> rfl

theorem ofExcept (o : Outside W) (view : σ → Exchange W) (result : Except Failure α) (s : σ) :
    o.Settles view (Act.ofExcept result) s result [] s :=
  ⟨Act.ofExcept_run result s, by simp, .nil _⟩

theorem read {f : σ → Act σ α} {result : Except Failure α}
    (done : o.Settles view (f s) s result turns s') :
    o.Settles view (get >>= f) s result turns s' :=
  ⟨done.run, done.noted, done.answered⟩

theorem bind {a : Act σ α} {x : α} (first : o.Settles view a s (.ok x) turns s')
    {f : α → Act σ β} {result : Except Failure β}
    (next : o.Settles view (f x) s' result more s'') :
    o.Settles view (a >>= f) s result (turns ++ more) s'' where
  run := by
    rw [Act.bind_run, first.run]
    exact next.run
  noted := by rw [next.noted, first.noted, List.map_append, List.append_assoc]
  answered := first.answered.append next.answered

theorem bind_error {a : Act σ α} {g : Failure} (first : o.Settles view a s (.error g) turns s')
    (f : α → Act σ β) : o.Settles view (a >>= f) s (.error g) turns s' where
  run := by
    rw [Act.bind_run, first.run]
    rfl
  noted := first.noted
  answered := first.answered

theorem mapped {a : Act σ α} {result : Except Failure α}
    (done : o.Settles view a s result turns s') (f : α → β) :
    o.Settles view (a >>= fun x => pure (f x)) s (result.map f) turns s' where
  run := by
    rw [Act.bind_run, done.run]
    cases result <;> rfl
  noted := done.noted
  answered := done.answered

theorem decoded {a : Act σ α} {result : Except Failure α}
    (done : o.Settles view a s result turns s') (f : α → Except Failure β) :
    o.Settles view (a >>= fun x => Act.ofExcept (f x)) s (result >>= f) turns s' where
  run := by
    rw [Act.bind_run, done.run]
    cases result with
    | error g => rfl
    | ok x => exact Act.ofExcept_run (f x) s'
  noted := done.noted
  answered := done.answered

theorem reported {a : Act σ α} {result : Except Failure α}
    (done : o.Settles view a s result turns s') (g : Failure → Failure) :
    o.Settles view (a.rescue fun f => throw (g f)) s (result.mapError g) turns s' where
  run := by
    rw [Act.rescue, done.run]
    cases result <;> rfl
  noted := done.noted
  answered := done.answered

theorem ignored {a : Act σ Unit} {result : Except Failure Unit}
    (done : o.Settles view a s result turns s') :
    o.Settles view (a.rescue fun _ => pure ()) s (.ok ()) turns s' where
  run := by
    rw [Act.rescue, done.run]
    cases result <;> rfl
  noted := done.noted
  answered := done.answered

theorem handled {a : Act σ α} {f : Failure} (failed : o.Settles view a s (.error f) turns s')
    {g : Failure → Act σ α} {result : Except Failure α} (next : g f s' = Act.settled result s') :
    o.Settles view (a.rescue g) s result turns s' where
  run := by
    rw [Act.rescue, failed.run]
    exact next
  noted := failed.noted
  answered := failed.answered

theorem unhandled {a : Act σ α} {x : α} (done : o.Settles view a s (.ok x) turns s')
    (g : Failure → Act σ α) : o.Settles view (a.rescue g) s (.ok x) turns s' where
  run := by
    rw [Act.rescue, done.run]
    rfl
  noted := done.noted
  answered := done.answered

theorem unreported {a : Act σ α} {result : Except Failure α}
    (done : o.Settles view a s result turns s') :
    o.Settles view a s (result.mapError id) turns s' := by
  cases result <;> exact done

theorem always {a : Act σ α} {result : Except Failure α}
    (done : o.Settles view a s result turns s') {last : Act σ Unit} {closing : Except Failure Unit}
    (left : o.Settles view last s' closing more s'') :
    o.Settles view (a.always last) s (closing >>= fun _ => result) (turns ++ more) s'' where
  run := by
    rw [Act.always, done.run]
    cases result <;> simp only [Act.settled, Act.bind_run, left.run] <;> cases closing <;> rfl
  noted := by rw [left.noted, done.noted, List.map_append, List.append_assoc]
  answered := done.answered.append left.answered

theorem second {a : Act (Exchange W) α} {x y : Exchange W} {result : Except Failure α}
    (done : o.Settles id a x result turns y) (t : τ) :
    o.Settles Prod.snd (Act.second a) (t, x) result turns (t, y) where
  run := by
    rw [Act.second_run, done.run]
    cases result <;> rfl
  noted := done.noted
  answered := done.answered

theorem modified (o : Outside W) (f : τ → τ) (t : τ) (x : Exchange W) :
    o.Settles Prod.snd (modify fun (t, x) => (f t, x)) (t, x) (.ok ()) [] (f t, x) :=
  ⟨rfl, by simp, .nil _⟩

theorem variant {a : Act (τ × Exchange W) α} {t t' : τ} {x y : Exchange W}
    {result : Except Failure α} (done : o.Settles Prod.snd a (t, x) result turns (t', y))
    (mk : τ → υ) (u : υ) :
    o.Settles Prod.snd (Act.variant mk t a) (u, x) result turns (mk t', y) where
  run := by
    simp only [Act.variant, done.run]
    cases result <;> rfl
  noted := done.noted
  answered := done.answered

end Settles

end Outside
end PagedQuery
