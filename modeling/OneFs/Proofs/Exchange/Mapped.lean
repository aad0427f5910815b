import OneFs.Proofs.Exchange.Course

/-!
# Plans side by side

Two plans that differ in some of what they tell and send are compared by what is left of them when
the difference is taken out of every event and every request.

- `Exchange.mapped`: a plan with every event and every request replaced, with one lemma for each way
  of putting plans together;
- `run_mapped`: against a server that does not see the difference, the run of such a plan;
- `run_mapped_congr`: plans of which the same is left have runs of which the same is left.
-/

namespace OneFs.Exchange

open Http

variable {α β σ : Type} {f : Event → Event} {g : Request → Request}

/-- A plan with other events and other requests. -/
def mapped (f : Event → Event) (g : Request → Request) : Exchange α → Exchange α
  | .done a => .done a
  | .failed e => .failed e
  | .noted e next => .noted (f e) (next.mapped f g)
  | .sent r next => .sent (g r) fun d => (next d).mapped f g

theorem mapped_bind (x : Exchange α) (k : α → Exchange β) :
    (x >>= k).mapped f g = x.mapped f g >>= fun a => (k a).mapped f g := by
  induction x with
  | done _ => rfl
  | failed _ => rfl
  | noted e _ ih => exact congrArg (Exchange.noted (f e)) ih
  | sent r _ ih => exact congrArg (Exchange.sent (g r)) (funext ih)

theorem mapped_map (h : α → β) (x : Exchange α) : (h <$> x).mapped f g = h <$> x.mapped f g := by
  rw [map_eq_pure_bind, map_eq_pure_bind, mapped_bind]
  rfl

theorem mapped_attempt (x : Exchange α) : x.attempt.mapped f g = (x.mapped f g).attempt := by
  induction x with
  | done _ => rfl
  | failed _ => rfl
  | noted e _ ih => exact congrArg (Exchange.noted (f e)) ih
  | sent r _ ih => exact congrArg (Exchange.sent (g r)) (funext ih)

theorem mapped_ofExcept (x : Except Failure α) : (ofExcept x).mapped f g = ofExcept x := by
  cases x <;> rfl

/-- Plans of which the same is left, one after another. -/
theorem mapped_bind_congr {x y : Exchange α} {k l : α → Exchange β}
    (first : x.mapped f g = y.mapped f g) (later : ∀ a, (k a).mapped f g = (l a).mapped f g) :
    (x >>= k).mapped f g = (y >>= l).mapped f g := by
  rw [mapped_bind, mapped_bind, first, funext later]

/-- A step with another event or another request. -/
def Step.mapped (f : Event → Event) (g : Request → Request) : Step → Step
  | .noted e => .noted (f e)
  | .sent r d => .sent (g r) d

/-- A run with other events and other requests. -/
def Run.mapped (f : Event → Event) (g : Request → Request) (r : Run σ α) : Run σ α :=
  { r with steps := r.steps.map (Step.mapped f g) }

/-- Against a server that answers the other requests alike, other events and other requests are all
that changes in a run. -/
theorem run_mapped {answer : σ → Request → Delivery × σ} (same : ∀ s r, answer s (g r) = answer s r)
    (x : Exchange α) (s : σ) : (x.mapped f g).run answer s = (x.run answer s).mapped f g := by
  induction x generalizing s with
  | done _ => rfl
  | failed _ => rfl
  | noted e _ ih => exact congrArg (Run.after (.noted (f e))) (ih s)
  | sent r next ih =>
    simp only [mapped, run_sent, same s r]
    exact congrArg (Run.after (.sent (g r) (answer s r).1)) (ih _ _)

/-- Plans of which the same is left have runs of which the same is left. -/
theorem run_mapped_congr {answer : σ → Request → Delivery × σ}
    (same : ∀ s r, answer s (g r) = answer s r) {x y : Exchange α}
    (left : x.mapped f g = y.mapped f g) (s : σ) :
    (x.run answer s).mapped f g = (y.run answer s).mapped f g := by
  rw [← run_mapped same, ← run_mapped same, left]

/-- The events of steps with other events. -/
theorem events_mapped (steps : List Step) :
    events (steps.map (Step.mapped f g)) = (events steps).map f := by
  induction steps with
  | nil => rfl
  | cons step rest ih => cases step <;> simp [events, Step.mapped, ih]

end OneFs.Exchange
